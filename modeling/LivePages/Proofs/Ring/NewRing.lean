import LivePages.Proofs.Ring.Succession

/-!
# The Slots of a New Ring

A ring is made of a configuration: a slot for every port, in the order of the ports. What is proved
of the owners of slots rests on the slots being told apart by what they hold outside the ring, their
addresses and their executables. The addresses differ because the ports do, whatever the host is;
the executables differ in any directory, because their names end in the numbers of the slots.

## Main results

* `Slot.map_index_ring`: the slots are numbered from zero.
* `Slot.nodup_components_ring`: no two executables are one file.
* `new_ring_sound`: an accepted configuration and its slots.
-/

namespace LivePages.Ring

/-- The slots are numbered from zero. -/
theorem Slot.map_index_ring (config : Config) :
    (Slot.ring config).map (·.index) = List.range config.backend.ports.length := by
  have hlength : config.backend.addrs.length = config.backend.ports.length := List.length_map _
  rw [Slot.ring, List.map_map, List.range_eq_range', ← hlength]
  exact List.zipIdx_map_snd 0 _

/-- The executable of a slot is a direct child of the directory, named by the number of the slot. -/
theorem components_executablePath (exeDir : String) (i : ℕ) :
    Files.Path.components (executablePath exeDir i) =
      Files.Path.components exeDir ++ [.name ("backend-" ++ toString i)] :=
  Files.Path.components_join_name _
    (Files.Path.isName_numbered (c := 'b') (by decide) (by decide) (by decide) i)

/-- Different slots have different executables, in whatever directory. -/
theorem components_executablePath_injective (exeDir : String) :
    Function.Injective fun i : ℕ => Files.Path.components (executablePath exeDir i) := by
  intro i j h
  simp only [components_executablePath] at h
  have hname := List.append_cancel_left h
  simp only [List.cons.injEq, Files.Path.Component.name.injEq, and_true] at hname
  exact Text.numbered_injective "backend-" hname

/-- The paths of the executables are those of the numbers of the slots. -/
theorem Slot.map_components_ring (config : Config) :
    (Slot.ring config).map (fun slot => Files.Path.components slot.exePath) =
      ((Slot.ring config).map (·.index)).map
        fun i => Files.Path.components (executablePath config.exeDir i) := by
  rw [Slot.ring, List.map_map, List.map_map, List.map_map]
  rfl

/-- No two executables are one file. -/
theorem Slot.nodup_components_ring (config : Config) :
    ((Slot.ring config).map fun slot => Files.Path.components slot.exePath).Nodup := by
  rw [Slot.map_components_ring, Slot.map_index_ring]
  exact List.nodup_range.map (components_executablePath_injective config.exeDir)

/-- **An accepted configuration makes a sound ring.** A configuration is accepted exactly if its
address has a character that is not blank and its ports are two or more different ones. Then there
is one slot for every port in order, numbered from zero, idle and with a free lock, and no two
slots share an address or an executable, whatever the host and the directory. -/
theorem new_ring_sound (config : Config) :
    (config.validate = .ok () ↔
      (∃ c ∈ config.listenAddr.toList, Text.isBlank c = false) ∧
        2 ≤ config.backend.ports.length ∧ config.backend.ports.Nodup) ∧
    (config.validate = .ok () →
      (Slot.ring config).map (·.addr) =
        config.backend.ports.map (fun port => config.backend.host ++ ":" ++ toString port) ∧
      (Slot.ring config).map (·.index) = List.range config.backend.ports.length ∧
      (∀ slot ∈ Slot.ring config, slot.phase = .idle ∧ slot.locked = false) ∧
      ((Slot.ring config).map (·.addr)).Nodup ∧
      ((Slot.ring config).map fun slot => Files.Path.components slot.exePath).Nodup) :=
  ⟨Config.validate_eq_ok_iff, fun hvalid => ⟨Slot.map_addr_ring config, Slot.map_index_ring config,
    fun _ => Slot.of_mem_ring, Slot.nodup_addr_ring hvalid, Slot.nodup_components_ring config⟩⟩

/-- A host that ends like a port and a directory that is the root. -/
theorem new_ring_sound_root :
    let config : Config :=
      { runtimeCrate := "/rt", exeDir := "/", listenAddr := " :80",
        backend := { host := "10.0.0.1:80", ports := [81, 1, 18] } }
    config.validate = .ok () ∧
      ((Slot.ring config).map (·.addr)) = ["10.0.0.1:80:81", "10.0.0.1:80:1", "10.0.0.1:80:18"] ∧
      ((Slot.ring config).map fun slot => Files.Path.components slot.exePath).Nodup := by
  intro config
  have hvalid : config.validate = .ok () := by decide +kernel
  obtain ⟨haddrs, -, -, -, hexecutables⟩ := (new_ring_sound config).2 hvalid
  refine ⟨hvalid, ?_, hexecutables⟩
  rw [haddrs]
  decide +kernel

end LivePages.Ring
