import TypedConfig.Text.Blank

/-!
# Options of the bootstrap

The options name the directories that are searched, the active profiles, the scope of environment
variables and the properties that override all others. `Options.ofArguments?` reads them from the
arguments of a command line: the value of an option is joined to it or is the next argument, which
then does not look like an option itself.
-/

namespace TypedConfig.Bootstrap

/-- The options of a run. -/
structure Options where
  /-- The directories to search, empty when they are configured elsewhere. -/
  directories : List Text
  /-- The active profiles, empty when they are configured elsewhere. -/
  profiles : List Text
  scope : Option Text
  overrides : List (Text × Text)
  deriving DecidableEq

/-- The kinds of options. -/
inductive Flag where
  | directory
  | profile
  | scope
  | override
  deriving DecidableEq

namespace Flag

/-- The option of a letter. -/
def ofLetter? : Char → Option Flag
  | 'c' => some directory
  | 'p' => some profile
  | 'D' => some override
  | _ => none

/-- The option of a word. -/
def ofWord? (word : Text) : Option Flag :=
  if word = "config-dir".toList then some directory
  else if word = "profile".toList then some profile
  else if word = "env-prefix".toList then some scope
  else if word = "set".toList then some override
  else none

/-- The option that an argument begins with, and the value that is joined to it. -/
def ofArgument? : Text → Option (Flag × Option Text)
  | '-' :: '-' :: word =>
    match Text.cut? word ['='] with
    | some (word, value) => (ofWord? word).map (·, some value)
    | none => (ofWord? word).map (·, none)
  | ['-', letter] => (ofLetter? letter).map (·, none)
  | '-' :: letter :: '=' :: value => (ofLetter? letter).map (·, some value)
  | '-' :: letter :: value => (ofLetter? letter).map (·, some value)
  | _ => none

end Flag

namespace Options

/-- No option at all. -/
def empty : Options := ⟨[], [], none, []⟩

/-- The scope of environment variables when none is given. -/
def standardScope : Text := "APP"

/-- The scope of environment variables. -/
def variableScope (options : Options) : Text := options.scope.getD standardScope

/-- The key and the value of an override. -/
def override? (text : Text) : Option (Text × Text) :=
  (text.cut? ['=']).map fun parts => (Text.trim parts.1, Text.trim parts.2)

/-- The options with a further one; the scope can be given once. -/
def add? (options : Options) (flag : Flag) (value : Text) : Option Options :=
  match flag with
  | .directory => some { options with directories := options.directories ++ [value] }
  | .profile => some { options with profiles := options.profiles ++ [value] }
  | .scope => if options.scope.isSome then none else some { options with scope := some value }
  | .override =>
    (override? value).map fun entry => { options with overrides := options.overrides ++ [entry] }

/-- Whether an argument can be the value of the option before it. -/
def isValue (argument : Text) : Bool := argument = ['-'] || argument.head? != some '-'

/-- The options with those of further arguments; a lone end mark may stand last. -/
def addArguments? : Options → List Text → Option Options
  | options, [] => some options
  | options, argument :: arguments =>
    match Flag.ofArgument? argument, arguments with
    | some (flag, some value), arguments =>
      (options.add? flag value).bind (addArguments? · arguments)
    | some (flag, none), value :: arguments =>
      if isValue value then (options.add? flag value).bind (addArguments? · arguments) else none
    | some (_, none), [] => none
    | none, [] => if argument = "--".toList then some options else none
    | none, _ :: _ => none

/-- The options that arguments give. -/
def ofArguments? (arguments : List Text) : Option Options := empty.addArguments? arguments

end Options

end TypedConfig.Bootstrap
