import ModalEditor.CommandLine
import ModalEditor.Proofs.Directives

/-!
# Arguments in any order

The arguments are options, each with its value if it has one, and positional arguments, mixed in any
way; after a `--` that is no value all are positional (`Interleaved`). Reading them goes option by
option (`readOptions_option`), and a positional argument in between only joins those found, so that
what is read depends on the options in their order and on the positional arguments in theirs.

`parse_interleaved` says what that is, and that arguments that are put together in another way, or
with another number of positional ones than one or two, are rejected.
-/

namespace ModalEditor

namespace Settings

/-! ### Adjustments of one setting -/

namespace Adjustment

/-- The limit on nesting that is given. -/
def macroDepth? : Adjustment → Option Nat
  | macroDepth n => some n
  | _ => none

/-- The limit on replayed keys that is given. -/
def macroBudget? : Adjustment → Option Nat
  | macroBudget n => some n
  | _ => none

/-- What is done to the flag. -/
def ignoreCase? : Adjustment → Option (Bool → Bool)
  | ignoreCase f => some f
  | _ => none

end Adjustment

/-- **A later adjustment overrides an earlier one**: of each limit the last is left, and the flag is
changed from one to the next. -/
theorem foldl_adjust (as : List Adjustment) (s : Settings) :
    as.foldl adjust s =
      { macroDepth := (as.filterMap (·.macroDepth?)).getLast?.getD s.macroDepth
        macroBudget := (as.filterMap (·.macroBudget?)).getLast?.getD s.macroBudget
        ignoreCase := (as.filterMap (·.ignoreCase?)).foldl (fun b f => f b) s.ignoreCase } := by
  induction as generalizing s with
  | nil => rfl
  | cons a as ih =>
    rw [List.foldl_cons, ih]
    cases a with
    | ignoreCase f => rfl
    | macroDepth n | macroBudget n =>
      simp [adjust, Adjustment.macroDepth?, Adjustment.macroBudget?, Adjustment.ignoreCase?,
        List.getLast?_cons]

end Settings

namespace CommandLine

open Settings (Adjustment adjust)

/-! ### How arguments are put together -/

/-- An option as it is given, with its value if it has one. -/
inductive GivenOption where
  /-- Searches ignore case. -/
  | ignoreCase
  /-- The keys are names. -/
  | names
  /-- The state is summed up. -/
  | state
  /-- Directives are applied. -/
  | set (directives : Text)
  /-- The limit on nesting is set. -/
  | depth (value : Text)
  /-- The limit on replayed keys is set. -/
  | budget (value : Text)
  deriving DecidableEq

namespace GivenOption

/-- The arguments that give an option. -/
def args : GivenOption → List Text
  | ignoreCase => [['-', '-', 'i', 'g', 'n', 'o', 'r', 'e', '-', 'c', 'a', 's', 'e']]
  | names => [['-', '-', 'n', 'a', 'm', 'e', 's']]
  | state => [['-', '-', 's', 't', 'a', 't', 'e']]
  | set directives => [['-', '-', 's', 'e', 't'], directives]
  | depth value => [['-', '-', 'd', 'e', 'p', 't', 'h'], value]
  | budget value => [['-', '-', 'b', 'u', 'd', 'g', 'e', 't'], value]

/-- **What a valid option asks of the settings.** The directives of `set` must all be in the table,
and the other values must be numbers. -/
inductive Asks : GivenOption → List Adjustment → Prop where
  /-- The flag is switched on. -/
  | ignoreCase : Asks ignoreCase [.ignoreCase fun _ => true]
  /-- Nothing is asked of the settings. -/
  | names : Asks names []
  /-- Nothing is asked of the settings. -/
  | state : Asks state []
  /-- Directives ask for what each of them asks for. -/
  | set {directives : Text} {as : List Adjustment}
    (h : List.Forall₂ Settings.Asks (splitWhiteSpace directives) as) : Asks (set directives) as
  /-- The limit is set. -/
  | depth {value : Text} {n : Nat} (reads : readNumber? value = some n) :
    Asks (depth value) [.macroDepth n]
  /-- The limit is set. -/
  | budget {value : Text} {n : Nat} (reads : readNumber? value = some n) :
    Asks (budget value) [.macroBudget n]

end GivenOption

/-- An argument that cannot be taken for an option. -/
def IsPositional (t : Text) : Prop := ¬ ['-', '-'] <+: t ∧ t ≠ ['-', 'h']

instance (t : Text) : Decidable (IsPositional t) := inferInstanceAs (Decidable (_ ∧ _))

/-- **Arguments that mix options and positional arguments**, those and these in their order. -/
inductive Interleaved : List GivenOption → List Text → List Text → Prop where
  /-- Nothing is left of either. -/
  | nil : Interleaved [] [] []
  /-- Next comes an option, and its value right behind it. -/
  | option (o : GivenOption) {options : List GivenOption} {positionals args : List Text}
    (rest : Interleaved options positionals args) :
    Interleaved (o :: options) positionals (o.args ++ args)
  /-- Next comes a positional argument. -/
  | positional {t : Text} (h : IsPositional t) {options : List GivenOption}
    {positionals args : List Text} (rest : Interleaved options positionals args) :
    Interleaved options (t :: positionals) (t :: args)
  /-- After this all arguments are positional. -/
  | endOfOptions (positionals : List Text) :
    Interleaved [] positionals (['-', '-'] :: positionals)

/-! ### What arguments come to -/

variable {c c' : Config} {found found' positionals args : List Text} {o : GivenOption}
  {options : List GivenOption} {as : List Adjustment}

/-- What options make of a configuration. -/
def Config.having (c : Config) (options : List GivenOption) (as : List Adjustment) : Config :=
  { c with
    settings := as.foldl adjust c.settings
    names := c.names || options.contains .names
    showState := c.showState || options.contains .state }

theorem Config.having_nil (c : Config) : c.having [] [] = c := by
  simp [having]

theorem Config.having_cons (c : Config) (o : GivenOption) (options : List GivenOption)
    (as as' : List Adjustment) :
    (c.having [o] as).having options as' = c.having (o :: options) (as ++ as') := by
  simp [having, Bool.or_assoc]

theorem ofText_of_isPositional {t : Text} (h : IsPositional t) : Arg.ofText t = .positional := by
  unfold Arg.ofText
  split
  · exact absurd rfl h.2
  · exact absurd ⟨_, rfl⟩ h.1
  · rfl

/-- **A valid option is applied**, and the arguments behind it are read. -/
theorem readOptions_option (h : o.Asks as) (c : Config) (found args : List Text) :
    readOptions c found (o.args ++ args) = readOptions (c.having [o] as) found args := by
  cases h with
  | ignoreCase => simp [GivenOption.args, readOptions, Arg.ofText, Config.having, adjust]
  | names => simp [GivenOption.args, readOptions, Arg.ofText, Config.having]
  | state => simp [GivenOption.args, readOptions, Arg.ofText, Config.having]
  | set h =>
    have hset := Settings.set_of_asks h c.settings
    simp [GivenOption.args, readOptions, Arg.ofText, Config.having, Config.withValue, Config.set,
      hset]
  | depth reads =>
    simp [GivenOption.args, readOptions, Arg.ofText, Config.having, Config.withValue, readValue,
      reads, adjust]
  | budget reads =>
    simp [GivenOption.args, readOptions, Arg.ofText, Config.having, Config.withValue, readValue,
      reads, adjust]

theorem readOptions_positional {t : Text} (h : IsPositional t) (c : Config)
    (found args : List Text) :
    readOptions c found (t :: args) = readOptions c (found ++ [t]) args := by
  simp [readOptions, ofText_of_isPositional h]

/-- **Options and positional arguments are read apart**, in whatever way they are mixed. The
induction is on how they are. -/
theorem readOptions_of_interleaved (h : Interleaved options positionals args)
    {ass : List (List Adjustment)} (hasks : List.Forall₂ GivenOption.Asks options ass) (c : Config)
    (found : List Text) :
    readOptions c found args = .ok (c.having options ass.flatten, found ++ positionals) := by
  induction h generalizing ass c found with
  | nil =>
    cases hasks with
    | nil => simp [readOptions, Config.having_nil]
  | option o rest ih =>
    cases hasks with
    | @cons _ as _ ass ho hasks =>
      rw [readOptions_option ho, ih hasks, Config.having_cons, List.flatten_cons]
  | positional ht rest ih =>
    rw [readOptions_positional ht, ih hasks, List.append_assoc, List.singleton_append]
  | endOfOptions positionals =>
    cases hasks with
    | nil => simp [readOptions, Arg.ofText, Config.having_nil]

/-! ### What is not accepted -/

/-- An option that is accepted is valid. -/
theorem exists_asks_of_readOptions {r : Config × List Text}
    (h : readOptions c found (o.args ++ args) = .ok r) : ∃ as, o.Asks as := by
  cases o with
  | ignoreCase => exact ⟨_, .ignoreCase⟩
  | names => exact ⟨_, .names⟩
  | state => exact ⟨_, .state⟩
  | set directives =>
    cases hset : c.settings.set directives with
    | mk s e? =>
      cases e? with
      | none =>
        obtain ⟨as, has⟩ := Settings.exists_asks_of_set (congrArg Prod.snd hset)
        exact ⟨as, .set has⟩
      | some e =>
        simp [GivenOption.args, readOptions, Arg.ofText, Config.withValue, Config.set, hset] at h
  | depth value =>
    cases hvalue : readNumber? value with
    | some n => exact ⟨_, .depth hvalue⟩
    | none =>
      simp [GivenOption.args, readOptions, Arg.ofText, Config.withValue, readValue, hvalue] at h
  | budget value =>
    cases hvalue : readNumber? value with
    | some n => exact ⟨_, .budget hvalue⟩
    | none =>
      simp [GivenOption.args, readOptions, Arg.ofText, Config.withValue, readValue, hvalue] at h

/-- What is to be said of an argument of a kind. -/
def Arg.Spells (t : Text) : Arg → Prop
  | .ignoreCase | .names | .state => ∃ o : GivenOption, o.args = [t]
  | .set | .depth | .budget => ∀ value, ∃ o : GivenOption, o.args = [t, value]
  | .endOfOptions => t = ['-', '-']
  | .positional => IsPositional t
  | .help | .unknown => True

theorem spells_ofText {t : Text} {kind : Arg} (h : Arg.ofText t = kind) : kind.Spells t := by
  subst h
  unfold Arg.ofText
  split
  · trivial
  · split
    · rfl
    · trivial
    · exact ⟨.ignoreCase, rfl⟩
    · exact ⟨.names, rfl⟩
    · exact ⟨.state, rfl⟩
    · exact fun value => ⟨.set value, rfl⟩
    · exact fun value => ⟨.depth value, rfl⟩
    · exact fun value => ⟨.budget value, rfl⟩
    · trivial
  · rename_i hhelp hoption
    refine ⟨?_, hhelp⟩
    rintro ⟨name, rfl⟩
    exact hoption name rfl

/-- An option may stand before arguments that mix options and positional arguments. -/
theorem exists_interleaved_append {given : List Text} (h : ∃ o : GivenOption, o.args = given)
    (hrest : ∃ options positionals, Interleaved options positionals args) :
    ∃ options positionals, Interleaved options positionals (given ++ args) := by
  obtain ⟨o, rfl⟩ := h
  obtain ⟨options, positionals, hrest⟩ := hrest
  exact ⟨_, _, .option o hrest⟩

/-- **Arguments that are read are put together of options and positional arguments.** The cases are
the kinds of the first argument. -/
theorem exists_interleaved {r : Config × List Text} (h : readOptions c found args = .ok r) :
    ∃ options positionals, Interleaved options positionals args := by
  fun_induction readOptions c found args with
  | case1 => exact ⟨[], [], .nil⟩
  | case2 | case7 | case9 | case11 => exact nomatch h
  | case3 c found arg rest hkind ih | case4 c found arg rest hkind ih
  | case5 c found arg rest hkind ih =>
    obtain ⟨o, ho⟩ := spells_ofText hkind
    exact exists_interleaved_append ⟨o, ho⟩ (ih h)
  | case6 c found arg rest hkind =>
    obtain rfl : arg = ['-', '-'] := spells_ofText hkind
    exact ⟨_, _, .endOfOptions rest⟩
  | case8 c found arg rest hkind ih =>
    obtain ⟨options, positionals, hrest⟩ := ih h
    exact ⟨_, _, .positional (spells_ofText hkind) hrest⟩
  | case10 c found arg value rest c' hhelp hignore hnames hstate hend hunknown hpos _ ih =>
    have hvalue : ∃ o : GivenOption, o.args = [arg, value] := by
      cases hkind : Arg.ofText arg with
      | set | depth | budget => exact spells_ofText hkind value
      | _ => contradiction
    exact exists_interleaved_append hvalue (ih h)

theorem exists_asks_of_interleaved (h : Interleaved options positionals args)
    {r : Config × List Text} (hread : readOptions c found args = .ok r) :
    ∃ ass, List.Forall₂ GivenOption.Asks options ass := by
  induction h generalizing c found with
  | nil => exact ⟨[], .nil⟩
  | option o rest ih =>
    obtain ⟨as, ho⟩ := exists_asks_of_readOptions hread
    rw [readOptions_option ho] at hread
    obtain ⟨ass, hasks⟩ := ih hread
    exact ⟨as :: ass, .cons ho hasks⟩
  | positional ht rest ih =>
    rw [readOptions_positional ht] at hread
    exact ih hread
  | endOfOptions => exact ⟨[], .nil⟩

/-! ### What is read -/

/-- **What options and positional arguments ask for**: of each limit the last that is given, the
flag as it has been changed from one option to the next, the keys and the file. -/
def Config.given (options : List GivenOption) (as : List Adjustment) (keys : Text)
    (file? : Option Text) : Config where
  settings :=
    { macroDepth := (as.filterMap (·.macroDepth?)).getLast?.getD ({} : Settings).macroDepth
      macroBudget := (as.filterMap (·.macroBudget?)).getLast?.getD ({} : Settings).macroBudget
      ignoreCase := (as.filterMap (·.ignoreCase?)).foldl (fun b f => f b) false }
  keys := keys
  file := file?
  names := options.contains .names
  showState := options.contains .state

theorem parse_of_readOptions {options : List GivenOption} {as : List Adjustment} {keys : Text}
    {file? : Option Text}
    (h : readOptions {} [] args = .ok (({} : Config).having options as, keys :: file?.toList)) :
    parse args = .ok (.given options as keys file?) := by
  have hsettings := Settings.foldl_adjust as {}
  cases file? <;> simp [parse, h, Config.having, Config.given, hsettings]

/-- Arguments are rejected if not one or two positional ones are read. -/
theorem exists_error_of_readOptions
    (h : ∀ r, readOptions {} [] args = .ok r → r.2 = [] ∨ 2 < r.2.length) :
    ∃ e, parse args = .error e := by
  unfold parse
  cases hread : readOptions {} [] args with
  | error e => exact ⟨e, rfl⟩
  | ok r =>
    obtain ⟨c, found⟩ := r
    have hfound := h _ hread
    match found with
    | [] => exact ⟨_, rfl⟩
    | [_] | [_, _] => simp at hfound
    | _ :: _ :: _ :: _ => exact ⟨_, rfl⟩

theorem exists_readOptions_of_parse (h : parse args = .ok c) :
    ∃ r, readOptions {} [] args = .ok r := by
  unfold parse at h
  cases hread : readOptions {} [] args with
  | error e =>
    rw [hread] at h
    exact nomatch h
  | ok r => exact ⟨r, rfl⟩

/-- **It does not matter where among the positional arguments options stand.** If the options are
valid and there are one or two positional arguments, what is read depends on these in their order
and on those in theirs. With another number of positional arguments all are rejected, and nothing
else is accepted than valid options with one or two positional arguments. -/
theorem parse_interleaved :
    (∀ options ass keys file? args, Interleaved options (keys :: file?.toList) args →
      List.Forall₂ GivenOption.Asks options ass →
      parse args = .ok (.given options ass.flatten keys file?)) ∧
    (∀ options positionals args, Interleaved options positionals args →
      positionals = [] ∨ 2 < positionals.length → ∃ e, parse args = .error e) ∧
    ∀ args c, parse args = .ok c → ∃ options ass keys file?,
      Interleaved options (keys :: file?.toList) args ∧
        List.Forall₂ GivenOption.Asks options ass ∧ c = .given options ass.flatten keys file? := by
  have hgiven : ∀ options ass keys file? args, Interleaved options (keys :: file?.toList) args →
      List.Forall₂ GivenOption.Asks options ass →
      parse args = .ok (.given options ass.flatten keys file?) :=
    fun options ass keys file? args h hasks =>
      parse_of_readOptions (readOptions_of_interleaved h hasks {} [])
  have hrejected : ∀ options positionals args, Interleaved options positionals args →
      positionals = [] ∨ 2 < positionals.length → ∃ e, parse args = .error e := by
    intro options positionals args h hlength
    refine exists_error_of_readOptions fun r hread => ?_
    obtain ⟨ass, hasks⟩ := exists_asks_of_interleaved h hread
    rw [readOptions_of_interleaved h hasks] at hread
    obtain rfl := Except.ok.inj hread
    exact hlength
  refine ⟨hgiven, hrejected, fun args c hparse => ?_⟩
  obtain ⟨r, hread⟩ := exists_readOptions_of_parse hparse
  obtain ⟨options, positionals, h⟩ := exists_interleaved hread
  obtain ⟨ass, hasks⟩ := exists_asks_of_interleaved h hread
  have hone : ∃ keys file?, positionals = keys :: Option.toList file? := by
    match positionals with
    | [keys] => exact ⟨keys, none, rfl⟩
    | [keys, file] => exact ⟨keys, some file, rfl⟩
    | [] | _ :: _ :: _ :: _ =>
      obtain ⟨e, he⟩ := hrejected _ _ _ h (by simp)
      exact nomatch hparse.symm.trans he
  obtain ⟨keys, file?, rfl⟩ := hone
  have hc := hparse.symm.trans (hgiven _ _ _ _ _ h hasks)
  exact ⟨options, ass, keys, file?, h, hasks, Except.ok.inj hc⟩

/-- Directives override one limit and are overridden in the other, and the file, which is behind the
two dashes, looks like an option. -/
theorem parse_interleaved_overridden :
    let depth := ['-', '-', 'd', 'e', 'p', 't', 'h']
    let budget := ['-', '-', 'b', 'u', 'd', 'g', 'e', 't']
    let set := ['-', '-', 's', 'e', 't']
    let state := ['-', '-', 's', 't', 'a', 't', 'e']
    let directives := ['m', 'd', '=', '3', ' ', 'i', 'c', '!', ' ', 'm', 'b', '=', '7']
    let c : Config :=
      { settings := { macroDepth := 3, macroBudget := 9, ignoreCase := true }
        keys := ['-', 'x']
        file := some state }
    parse [depth, ['4'], ['-', 'x'], set, directives, budget, ['+', '9'], ['-', '-'], state] = .ok c ∧
      parse [['-', 'x'], depth, ['4'], set, directives, budget, ['+', '9'], ['-', '-'], state] =
        .ok c ∧
      ∃ e, parse [depth, ['4'], set, directives, budget, ['+', '9']] = .error e := by
  intro depth budget set state directives c
  let options : List GivenOption := [.depth ['4'], .set directives, .budget ['+', '9']]
  let ass : List (List Adjustment) :=
    [[.macroDepth 4], [.macroDepth 3, .ignoreCase (!·), .macroBudget 7], [.macroBudget 9]]
  have hwords : splitWhiteSpace directives =
      [['m', 'd', '=', '3'], ['i', 'c', '!'], ['m', 'b', '=', '7']] := by decide +kernel
  have hdepth : Settings.Asks ['m', 'd', '=', '3'] (.macroDepth 3) :=
    @Settings.Asks.macroDepth ['m', 'd'] ['3'] 3 (by decide) rfl
  have hflag : Settings.Asks ['i', 'c', '!'] (.ignoreCase (!·)) :=
    @Settings.Asks.toggle ['i', 'c'] (by decide)
  have hbudget : Settings.Asks ['m', 'b', '=', '7'] (.macroBudget 7) :=
    @Settings.Asks.macroBudget ['m', 'b'] ['7'] 7 (by decide) rfl
  have hdirectives : List.Forall₂ Settings.Asks (splitWhiteSpace directives)
      [.macroDepth 3, .ignoreCase (!·), .macroBudget 7] := by
    rw [hwords]
    exact .cons hdepth (.cons hflag (.cons hbudget .nil))
  have hasks : List.Forall₂ GivenOption.Asks options ass :=
    .cons (.depth rfl) (.cons (.set hdirectives) (.cons (.budget rfl) .nil))
  have hpositional : IsPositional ['-', 'x'] := by decide
  have hlast : Interleaved [.budget ['+', '9']] [state]
      [budget, ['+', '9'], ['-', '-'], state] := .option _ (.endOfOptions [state])
  have hwithin : Interleaved options [['-', 'x'], state]
      [depth, ['4'], ['-', 'x'], set, directives, budget, ['+', '9'], ['-', '-'], state] :=
    .option _ (.positional hpositional (.option _ hlast))
  have hbefore : Interleaved options [['-', 'x'], state]
      [['-', 'x'], depth, ['4'], set, directives, budget, ['+', '9'], ['-', '-'], state] :=
    .positional hpositional (.option _ (.option _ hlast))
  have hnone : Interleaved options [] [depth, ['4'], set, directives, budget, ['+', '9']] :=
    .option _ (.option _ (.option _ .nil))
  exact ⟨parse_interleaved.1 options ass ['-', 'x'] (some state) _ hwithin hasks,
    parse_interleaved.1 options ass ['-', 'x'] (some state) _ hbefore hasks,
    parse_interleaved.2.1 options [] _ hnone (.inl rfl)⟩

end CommandLine

end ModalEditor
