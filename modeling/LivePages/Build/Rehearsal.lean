import LivePages.Build.Product

/-!
# Rehearsals

Toolchains that compile nothing and leave what they are told to, for trying out everything around a
compiler.

## Main definitions

* `Rehearsal` — what is left.
* `Rehearsal.toolchain` — the toolchain that leaves it.
-/

namespace LivePages.Build

/-- What a rehearsed compilation leaves. -/
structure Rehearsal where
  /-- The versions of all packages, unless none are settled. -/
  lock : Option String := none
  /-- Why it fails, if it does. -/
  failure : Option String := none
  /-- The executable; without one its path is returned all the same. -/
  executable : Option String := some "binary"
  deriving DecidableEq, Repr

/-- The toolchain that leaves this. -/
def Rehearsal.toolchain (rehearsal : Rehearsal) : Toolchain := fun directory record => do
  Work.writeText record "building\n"
  match rehearsal.lock with
  | some text => Work.writeText (lockPath directory) text
  | none => pure ()
  match rehearsal.failure with
  | some reason => throw (.build (.reported reason))
  | none => pure ()
  let executable := Files.Path.join directory "backend-bin"
  match rehearsal.executable with
  | some text => Work.writeText executable text
  | none => pure ()
  return executable

end LivePages.Build
