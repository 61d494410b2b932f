import WireSchemas.DataFormat.Reader

/-!
# Arguments

Arguments are words and options.  An option has a long name after two hyphens and perhaps a letter
after one; its value is joined to it, with or without an equals sign after the letter, or is the
next word.  After a lone pair of hyphens all is words.  No option may be given twice.
-/

namespace WireSchemas.CommandLine

/-- An option, which always takes a value. -/
structure OptionName where
  long : String
  letter : Option Char := none
deriving Repr, DecidableEq

/-- What one argument is. -/
inductive Argument where
  | word
  /-- The pair of hyphens that ends the options. -/
  | endOfOptions
  /-- An option, with its value when that is joined to it. -/
  | option (long : String) (value : Option String)
  | unknown
deriving Repr, DecidableEq

/-- The argument after two hyphens. -/
def longOption (names : List OptionName) (cs : List Char) : Argument :=
  let long := String.ofList (cs.takeWhile fun c => c != '=')
  let value := match cs.dropWhile fun c => c != '=' with
    | [] => none
    | _ :: value => some (String.ofList value)
  if names.any fun n => n.long == long then .option long value else .unknown

/-- The argument with a letter after one hyphen. -/
def letterOption (names : List OptionName) (letter : Char) (cs : List Char) : Argument :=
  let value := match cs with
    | [] => none
    | '=' :: value => some (String.ofList value)
    | value => some (String.ofList value)
  match names.find? fun n => n.letter == some letter with
  | some n => .option n.long value
  | none => .unknown

/-- What an argument is where some options are known. -/
def Argument.of (names : List OptionName) (argument : String) : Argument :=
  match argument.toList with
  | ['-', '-'] => .endOfOptions
  | '-' :: '-' :: cs => longOption names cs
  | '-' :: letter :: cs => letterOption names letter cs
  | _ => .word

/-- Options with their values, and words. -/
structure Arguments where
  options : List (String × String) := []
  words : List String := []
deriving Repr, DecidableEq

namespace Arguments

/-- Arguments with an option before them. -/
def withOption (a : Arguments) (long value : String) : Arguments :=
  { a with options := (long, value) :: a.options }

/-- Arguments with a word before them. -/
def withWord (a : Arguments) (word : String) : Arguments :=
  { a with words := word :: a.words }

/-- Arguments sorted into options and words.  A command's own arguments begin at the first word:
when they are `open`, that word and all after it are words. -/
def sort? (names : List OptionName) (isOpen : Bool) : List String → Option Arguments
  | [] => some {}
  | argument :: rest =>
    match Argument.of names argument with
    | .word =>
      if isOpen then some { words := argument :: rest }
      else (sort? names isOpen rest).map (·.withWord argument)
    | .endOfOptions => if isOpen then none else some { words := rest }
    | .option long (some value) => (sort? names isOpen rest).map (·.withOption long value)
    | .option long none =>
      match rest with
      | [] => none
      | value :: rest =>
        if Argument.of names value = .word then
          (sort? names isOpen rest).map (·.withOption long value)
        else none
    | .unknown => none

/-- Arguments in which no option is given twice. -/
def read? (names : List OptionName) (isOpen : Bool) (arguments : List String) :
    Option Arguments :=
  (sort? names isOpen arguments).filter fun a => decide (a.options.map Prod.fst).Nodup

/-- The value of an option. -/
def value? (a : Arguments) (long : String) : Option String :=
  a.options.lookup long

/-- The value of an option if it is given, read by `read`. -/
def optional? {α : Type} (a : Arguments) (long : String) (read : String → Option α) :
    Option (Option α) :=
  match a.value? long with
  | none => some none
  | some value => (read value).map some

end Arguments

end WireSchemas.CommandLine
