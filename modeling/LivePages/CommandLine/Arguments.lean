import LivePages.Text.Split

/-!
# Arguments

What a program with several commands accepts on its command line, and how its arguments are read.

## Main definitions

* `Choice`, `Order`, `Suite` — an option with a value, a command, and a program with commands.
* `Mistake` — what can be wrong with arguments.
* `Suite.read` — the command that arguments ask for.
-/

namespace LivePages.CommandLine

/-- An option that takes a value. -/
structure Choice where
  /-- Its letter. -/
  letter : Char
  /-- Its name. -/
  name : String
  /-- It cannot be left out. -/
  required : Bool := false
  /-- What it is for. -/
  description : String
  deriving DecidableEq, Repr

/-- The spelling of an option with its letter. -/
def Choice.short (c : Choice) : String :=
  String.ofList ['-', c.letter]

/-- The spelling of an option with its name. -/
def Choice.long (c : Choice) : String :=
  "--" ++ c.name

/-- An argument that is known by its position. -/
structure Operand where
  /-- Its name. -/
  name : String
  /-- What it is. -/
  description : String
  deriving DecidableEq, Repr

/-- A command. -/
structure Order where
  /-- Its name. -/
  name : String
  /-- What it does. -/
  description : String
  /-- Its arguments, all of them required. -/
  operands : List Operand := []
  /-- Its options. -/
  choices : List Choice := []
  deriving DecidableEq, Repr

/-- A program with commands. -/
structure Suite where
  /-- Its name. -/
  name : String
  /-- What it is. -/
  description : String
  /-- Its commands. -/
  orders : List Order
  deriving DecidableEq, Repr

/-- What is wrong with some arguments. -/
inductive Mistake where
  /-- Nothing has this name, or there is one argument too many. -/
  | unrecognized (argument : String)
  /-- The value of an option is missing. -/
  | noValue (choice : String)
  /-- An option is given twice. -/
  | repeated (choice value : String)
  /-- An option stands behind a request for help. -/
  | afterHelp
  /-- Required arguments and options are missing. -/
  | incomplete (operands choices : List String)
  /-- There is no command. -/
  | noOrder (orders : List String)
  deriving DecidableEq, Repr

/-- A heading with a list below it. -/
def listed (heading : String) (names : List String) : String :=
  heading ++ ":" ++ String.join (names.map fun n => "\n    " ++ n)

/-- The wording of a mistake. -/
def Mistake.message : Mistake → String
  | .unrecognized argument => s!"Unrecognized argument: {argument}\n"
  | .noValue choice => s!"No value provided for option '{choice}'.\n"
  | .repeated choice value =>
    s!"Error parsing option '{choice}' with value '{value}': duplicate values provided\n"
  | .afterHelp => "Trailing arguments are not allowed after \x60help\x60."
  | .incomplete operands choices =>
    let parts :=
      (if operands.isEmpty then []
        else [listed "Required positional arguments not provided" operands]) ++
      (if choices.isEmpty then [] else [listed "Required options not provided" choices])
    Text.joined "\n" parts ++ "\n"
  | .noOrder orders =>
    listed "One of the following subcommands must be present" ("help" :: orders) ++ "\n"

/-- What has been read of the arguments of a command. -/
structure Reading where
  /-- Help is asked for. -/
  helping : Bool := false
  /-- There are no more options. -/
  ended : Bool := false
  /-- The arguments known by their position. -/
  operands : List String := []
  /-- The names of the options given, with their values. -/
  values : List (String × String) := []
  deriving DecidableEq, Repr

/-- The value of an option that is given. -/
def Reading.value? (r : Reading) (name : String) : Option String :=
  r.values.lookup name

/-- The words that ask for help. -/
def helpWords : List String :=
  ["--help", "help"]

/-- The argument looks like an option. -/
def isDashed (argument : String) : Bool :=
  argument.toList.head? == some '-'

/-- The option of a spelling. -/
def Order.choice? (order : Order) (argument : String) : Option Choice :=
  order.choices.find? fun c => c.short == argument || c.long == argument

/-- Reads on in the arguments of a command. -/
def Order.readFrom (order : Order) : Reading → List String → Except Mistake Reading
  | r, [] => .ok r
  | r, a :: rest =>
    if !r.ended && helpWords.contains a then order.readFrom { r with helping := true } rest
    else if !r.ended && isDashed a then
      if a == "--" then order.readFrom { r with ended := true } rest
      else if r.helping then .error .afterHelp
      else
        match order.choice? a, rest with
        | none, _ => .error (.unrecognized a)
        | some _, [] => .error (.noValue a)
        | some c, value :: rest =>
          if (r.value? c.name).isSome then .error (.repeated a value)
          else order.readFrom { r with values := r.values ++ [(c.name, value)] } rest
    else if r.operands.length < order.operands.length then
      order.readFrom { r with operands := r.operands ++ [a] } rest
    else .error (.unrecognized a)

/-- Refuses what lacks something required. Who asks for help need not give anything. -/
def Order.complete (order : Order) (r : Reading) : Except Mistake Reading :=
  let operands := (order.operands.drop r.operands.length).map (·.name)
  let lacking := order.choices.filter fun c => c.required && (r.value? c.name).isNone
  if r.helping || operands.isEmpty && lacking.isEmpty then .ok r
  else .error (.incomplete operands (lacking.map (·.long)))

/-- Reads the arguments of a command. -/
def Order.read (order : Order) (helping : Bool) (arguments : List String) :
    Except Mistake Reading := do
  order.complete (← order.readFrom { helping } arguments)

/-- What arguments ask for. -/
inductive Request where
  /-- An overview of the program. -/
  | overview
  /-- A description of a command. -/
  | help (order : Order)
  /-- Carrying out a command. -/
  | perform (order : Order) (reading : Reading)

/-- Reads on in the arguments of a program. -/
def Suite.readFrom (suite : Suite) (helping ended : Bool) : List String → Except Mistake Request
  | [] =>
    if helping then .ok .overview else .error (.noOrder (suite.orders.map (·.name)))
  | a :: rest =>
    if !ended && helpWords.contains a then suite.readFrom true ended rest
    else if !ended && isDashed a then
      if a == "--" then suite.readFrom helping true rest
      else if helping then .error .afterHelp
      else .error (.unrecognized a)
    else
      match suite.orders.find? fun o => o.name == a with
      | none => .error (.unrecognized a)
      | some order => do
        let reading ← order.read helping rest
        return if reading.helping then .help order else .perform order reading

/-- What arguments ask of a program. -/
def Suite.read (suite : Suite) (arguments : List String) : Except Mistake Request :=
  suite.readFrom false false arguments

end LivePages.CommandLine
