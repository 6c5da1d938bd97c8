/-!
# Arguments of a command line

A command has options, some with a value, and positions for other arguments. An option with a value
takes it from the same argument or from the next one. After two hyphens every argument is taken as
it is.

## Main definitions

* `Folio.OptionForm`: how an option is written.
* `Folio.Arguments`: the options and other arguments of a command.
* `Folio.Arguments.read`: reads the arguments of a command.
-/

namespace Folio

/-- How an option is written. -/
structure OptionForm where
  /-- The name after two hyphens. -/
  name : String
  /-- The letter after one hyphen. -/
  letter : Option Char := none
  /-- Whether a value follows. -/
  valued : Bool := false
  /-- The only values that it may have, if it cannot have any. -/
  choices : List String := []
  deriving DecidableEq, Repr

/-- Why arguments are not read to their end. -/
inductive Interruption where
  /-- They ask for help. -/
  | help
  /-- They ask for the version. -/
  | version
  /-- They are not understood. -/
  | misuse
  deriving DecidableEq, Repr

/-- The arguments of a command read so far. -/
structure Arguments where
  /-- The options with their values; an option without a value has an empty one. -/
  options : List (String × String) := []
  /-- The other arguments, in their order. -/
  others : List String := []
  /-- The option that the next argument is the value of. -/
  pending : Option OptionForm := none
  /-- Whether all arguments are taken as they are. -/
  verbatim : Bool := false
  deriving DecidableEq, Repr

namespace Arguments

/-- The value of an option that was given. -/
def value? (a : Arguments) (name : String) : Option String := a.options.lookup name

/-- Whether an option was given. -/
def has (a : Arguments) (name : String) : Bool := (a.value? name).isSome

/-- Adds an option without a value. No option may be given twice. -/
def addFlag (a : Arguments) (form : OptionForm) : Except Interruption Arguments :=
  if a.has form.name then .error .misuse
  else .ok { a with options := a.options ++ [(form.name, "")] }

/-- Adds an option with a value, which must not be empty. -/
def addValue (a : Arguments) (form : OptionForm) (value : String) :
    Except Interruption Arguments :=
  if a.has form.name || value.isEmpty || !(form.choices.isEmpty || form.choices.contains value) then
    .error .misuse
  else .ok { a with options := a.options ++ [(form.name, value)], pending := none }

/-- Adds an argument that belongs to no option. -/
def addOther (limit : Nat) (a : Arguments) (argument : String) : Except Interruption Arguments :=
  if a.others.length ≥ limit || argument.isEmpty then .error .misuse
  else .ok { a with others := a.others ++ [argument] }

/-- Reads the letters after one hyphen. An option with a value takes the rest of the argument,
where an equals sign may separate it. -/
def readLetters (forms : List OptionForm) (a : Arguments) :
    List Char → Except Interruption Arguments
  | [] => .ok a
  | letter :: rest =>
    match forms.find? fun form => form.letter == some letter with
    | none => .error (if letter == 'h' then .help else .misuse)
    | some form =>
      if form.valued then
        match rest with
        | [] => if a.has form.name then .error .misuse else .ok { a with pending := some form }
        | '=' :: value => a.addValue form (String.ofList value)
        | value => a.addValue form (String.ofList value)
      else (a.addFlag form).bind fun a => readLetters forms a rest

/-- Reads the name after two hyphens, with a value after an equals sign if there is one. -/
def readName (forms : List OptionForm) (a : Arguments) (cs : List Char) :
    Except Interruption Arguments :=
  let name := String.ofList (cs.takeWhile (· != '='))
  let value : Option String :=
    match cs.dropWhile (· != '=') with
    | _ :: value => some (String.ofList value)
    | [] => none
  match forms.find? fun form => form.name == name with
  | none => .error (if name == "help" && value.isNone then .help else .misuse)
  | some form =>
    match form.valued, value with
    | true, some value => a.addValue form value
    | true, none => if a.has form.name then .error .misuse else .ok { a with pending := some form }
    | false, none => a.addFlag form
    | false, some _ => .error .misuse

/-- Reads one argument. The value of an option does not start with a hyphen unless it is one. -/
def step (forms : List OptionForm) (limit : Nat) (a : Arguments) (argument : String) :
    Except Interruption Arguments :=
  if a.verbatim then a.addOther limit argument
  else
    match a.pending, argument.toList with
    | some _, '-' :: _ :: _ => .error .misuse
    | some form, _ => a.addValue form argument
    | none, ['-', '-'] => .ok { a with verbatim := true }
    | none, '-' :: '-' :: name => a.readName forms name
    | none, '-' :: letter :: letters => a.readLetters forms (letter :: letters)
    | none, _ => a.addOther limit argument

/-- Reads the arguments of a command with some options and at most `limit` other arguments. -/
def read (forms : List OptionForm) (limit : Nat) (arguments : List String) :
    Except Interruption Arguments := do
  let a ← arguments.foldlM (step forms limit) {}
  if a.pending.isSome then .error .misuse else .ok a

end Arguments

end Folio
