import ModalEditor.Number
import ModalEditor.Text.Word

/-!
# Settings

Three settings steer the interpreter: whether searches ignore case, how deep macros may nest, and
how many keys they may replay. They are changed by directives: a flag is switched on by its name,
off by its name after `no`, over by its name before `!`; a number is assigned with `=`. A list of
directives is applied from left to right up to the first that fails.
-/

namespace ModalEditor

/-- The settings of the interpreter. -/
structure Settings where
  /-- The deepest nesting of macros. -/
  macroDepth : Nat := 64
  /-- How many keys macros may replay in one run. -/
  macroBudget : Nat := 100000
  /-- Whether search patterns ignore case. -/
  ignoreCase : Bool := false
  deriving DecidableEq, Inhabited

/-- What a directive asks for. -/
inductive Directive where
  /-- Switch a flag on. -/
  | on (name : Text)
  /-- Switch a flag off. -/
  | off (name : Text)
  /-- Switch a flag over. -/
  | toggle (name : Text)
  /-- Assign a number. -/
  | assign (name value : Text)
  deriving DecidableEq

/-- Why a directive cannot be applied. -/
inductive SettingError where
  /-- No setting has this name. -/
  | unknown (name : Text)
  /-- The setting is a number and was used as a flag. -/
  | notFlag (name : Text)
  /-- The setting is a flag and was assigned a number. -/
  | notNumber (name : Text)
  /-- The value assigned is not a number in range. -/
  | invalidValue (name value : Text)
  deriving DecidableEq

/-- The wording of an error. -/
def SettingError.message : SettingError → String
  | unknown name => "unknown option: " ++ String.ofList name
  | notFlag name => "option " ++ String.ofList name ++ " takes a number"
  | notNumber name => "option " ++ String.ofList name ++ " is a flag"
  | invalidValue name value =>
    "invalid value for " ++ String.ofList name ++ ": " ++ String.ofList value

namespace Settings

/-- The names of the flag that makes searches ignore case. -/
def ignoreCaseNames : List Text :=
  [['i', 'g', 'n', 'o', 'r', 'e', 'c', 'a', 's', 'e'], ['i', 'c']]

/-- The names of the limit on nesting. -/
def macroDepthNames : List Text :=
  [['m', 'a', 'c', 'r', 'o', 'd', 'e', 'p', 't', 'h'], ['m', 'd']]

/-- The names of the limit on replayed keys. -/
def macroBudgetNames : List Text :=
  [['m', 'a', 'c', 'r', 'o', 'b', 'u', 'd', 'g', 'e', 't'], ['m', 'b']]

/-- Whether a name is that of a flag. -/
def isFlag (name : Text) : Bool := ignoreCaseNames.contains name

/-- Whether a name is that of a number. -/
def isNumber (name : Text) : Bool :=
  macroDepthNames.contains name || macroBudgetNames.contains name

end Settings

namespace Directive

/-- Reads one directive. The first equals sign makes an assignment; without one, a final `!` a
switch over; without either, `no` before the name of a flag a switch off. -/
def read (t : Text) : Directive :=
  if t.contains '=' then
    assign (t.takeWhile (· != '=')) ((t.dropWhile (· != '=')).drop 1)
  else if t.getLast? = some '!' then toggle t.dropLast
  else
    match t with
    | 'n' :: 'o' :: name => if Settings.isFlag name then off name else on t
    | _ => on t

/-- Reads directives that white space separates. -/
def readAll (t : Text) : List Directive := (splitWhiteSpace t).map read

end Directive

namespace Settings

/-- Changes a flag. -/
def modifyFlag (s : Settings) (name : Text) (f : Bool → Bool) : Except SettingError Settings :=
  if isFlag name then .ok { s with ignoreCase := f s.ignoreCase }
  else if isNumber name then .error (.notFlag name)
  else .error (.unknown name)

/-- Assigns a number. -/
def assignNumber (s : Settings) (name : Text) (n : Nat) : Except SettingError Settings :=
  if macroDepthNames.contains name then .ok { s with macroDepth := n }
  else if macroBudgetNames.contains name then .ok { s with macroBudget := n }
  else if isFlag name then .error (.notNumber name)
  else .error (.unknown name)

/-- Applies one directive. The value of an assignment is read before its name is looked at. -/
def apply (s : Settings) : Directive → Except SettingError Settings
  | .on name => s.modifyFlag name fun _ => true
  | .off name => s.modifyFlag name fun _ => false
  | .toggle name => s.modifyFlag name (!·)
  | .assign name value =>
    match readNumber? value with
    | some n => s.assignNumber name n
    | none => .error (.invalidValue name value)

/-- Applies directives up to the first that fails: the settings reached, and the failure. -/
def applyAll (s : Settings) : List Directive → Settings × Option SettingError
  | [] => (s, none)
  | d :: ds =>
    match s.apply d with
    | .ok s' => s'.applyAll ds
    | .error e => (s, some e)

/-- Applies the directives of a text. -/
def set (s : Settings) (t : Text) : Settings × Option SettingError :=
  s.applyAll (Directive.readAll t)

end Settings

end ModalEditor
