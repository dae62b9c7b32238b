import GameBoy.Proofs.CommandLine.Groups
import GameBoy.Proofs.Text.Count

/-!
# The grammar of an argument list

An argument list spells options if its groups do: every option has a value, every number of
frames is a count, and exactly one group names the cartridge image. What is spelled depends on
that one and on the last value of each option only. If nothing is spelled, the first group that
breaks a rule is reported.
-/

namespace GameBoy.CommandLine

namespace ArgumentGroup

/-- The draft that groups fill in: what is named first is the cartridge image, and an option
has its last value. -/
def draft (groups : List ArgumentGroup) : Draft where
  rom := (singles groups).head?
  boot := (values .boot groups).getLast?
  frames := (values .frames groups).getLast?.map fun value =>
    Text.decimal (Text.unsigned value.toList)
  output := (values .output groups).getLast?

end ArgumentGroup

open ArgumentGroup

/-- Take one group into a draft. -/
def Draft.take (draft : Draft) : ArgumentGroup → Except UsageError Draft
  | .setting option value => draft.assign option value
  | .unfinished option => .error (.missingValue option.text)
  | .single argument => draft.place argument

/-- Reading takes the groups one after the other. -/
theorem Draft.read_eq (draft : Draft) (arguments : List String) :
    draft.read arguments =
      (ofArguments arguments).foldlM Draft.take draft >>= Draft.finish := by
  fun_induction Draft.read draft arguments with
  | case1 draft => rfl
  | case2 draft argument option found =>
      rw [OptionName.ofText?_eq_some_iff.mp found, ofArguments_unfinished]
      rfl
  | case3 draft argument unclaimed =>
      rw [ofArguments_single (OptionName.ofText?_eq_none_iff.mp unclaimed), List.foldlM_cons,
        bind_assoc]
      rfl
  | case4 draft argument value rest option found next assigned ih =>
      rw [OptionName.ofText?_eq_some_iff.mp found, ofArguments_setting, List.foldlM_cons, take,
        assigned, ih]
      rfl
  | case5 draft argument value rest option found error assigned =>
      rw [OptionName.ofText?_eq_some_iff.mp found, ofArguments_setting, List.foldlM_cons, take,
        assigned]
      rfl
  | case6 draft argument value rest unclaimed next placed ih =>
      rw [ofArguments_single (OptionName.ofText?_eq_none_iff.mp unclaimed), List.foldlM_cons,
        take, placed, ih]
      rfl
  | case7 draft argument value rest unclaimed error placed =>
      rw [ofArguments_single (OptionName.ofText?_eq_none_iff.mp unclaimed), List.foldlM_cons,
        take, placed]
      rfl

namespace ArgumentGroup

/-- A group breaks a rule behind others, and this is the report. -/
inductive Offends (earlier : List ArgumentGroup) : ArgumentGroup → UsageError → Prop where
  | unfinished (option : OptionName) :
      Offends earlier (.unfinished option) (.missingValue option.text)
  | frames {value : String}
      (unspelled : ∀ count ≤ frameLimit, ¬ Text.Spells value.toList count) :
      Offends earlier (.setting .frames value)
        (.invalidFrames value (Text.countFault frameLimit value.toList))
  | dashed {argument : String} (dashed : ['-', '-'] <+: argument.toList) :
      Offends earlier (.single argument) (.unknownOption argument)
  | second {argument : String} (undashed : ¬ ['-', '-'] <+: argument.toList)
      (placed : singles earlier ≠ []) :
      Offends earlier (.single argument) (.unexpectedArgument argument)

/-- No group breaks a rule. -/
def Clean (groups : List ArgumentGroup) : Prop :=
  ∀ earlier group later, groups = earlier ++ group :: later →
    ∀ error, ¬ Offends earlier group error

/-- Why groups spell no options: one that breaks a rule behind others that break none, or else
no cartridge image. -/
inductive Rejected (groups : List ArgumentGroup) : UsageError → Prop where
  | offended {earlier later : List ArgumentGroup} {group : ArgumentGroup} {error : UsageError}
      (split : groups = earlier ++ group :: later) (clean : Clean earlier)
      (offends : Offends earlier group error) : Rejected groups error
  | missing (clean : Clean groups) (unnamed : singles groups = []) :
      Rejected groups .missingRom

/-- The rules for groups that spell options. -/
structure Grammatical (groups : List ArgumentGroup) : Prop where
  finished : ∀ option, .unfinished option ∉ groups
  counted : ∀ value ∈ values .frames groups,
    ∃ count ≤ frameLimit, Text.Spells value.toList count
  undashed : ∀ argument ∈ singles groups, ¬ ['-', '-'] <+: argument.toList
  single : (singles groups).length = 1

/-- The options that groups spell. -/
structure Denotes (groups : List ArgumentGroup) (options : Options) : Prop where
  rom : singles groups = [options.rom]
  boot : (values .boot groups).getLast? = options.boot
  frames : match (values .frames groups).getLast? with
    | none => options.frames = 60
    | some value => Text.Spells value.toList options.frames
  output : (values .output groups).getLast?.getD "frame.pgm" = options.output

variable {groups earlier later : List ArgumentGroup} {group : ArgumentGroup}
  {error : UsageError}

theorem take_eq_dashes_iff {text : List Char} :
    text.take 2 = ['-', '-'] ↔ ['-', '-'] <+: text := by
  rw [List.prefix_iff_eq_take]
  exact eq_comm

/-- A group that breaks a rule is reported as soon as it is taken. -/
theorem Offends.take_eq (offends : Offends earlier group error) :
    (draft earlier).take group = .error error := by
  cases offends with
  | unfinished option => rfl
  | frames unspelled => simp [Draft.take, Draft.assign, Text.readCount_eq_error unspelled]
  | dashed dashed => simp [Draft.take, Draft.place, take_eq_dashes_iff.mpr dashed]
  | second undashed placed =>
      obtain ⟨rom, named⟩ := Option.isSome_iff_exists.mp (List.isSome_head?.mpr placed)
      simp [Draft.take, Draft.place, mt take_eq_dashes_iff.mp undashed, draft, named]

theorem inoffensive_setting_iff {option : OptionName} {value : String} :
    (∀ error, ¬ Offends earlier (.setting option value) error) ↔
      (option = .frames → ∃ count ≤ frameLimit, Text.Spells value.toList count) := by
  constructor
  · rintro inoffensive rfl
    by_contra unspelled
    exact inoffensive _ (.frames fun count small spelled => unspelled ⟨count, small, spelled⟩)
  · intro counted error offends
    cases offends with
    | frames unspelled =>
        obtain ⟨count, small, spelled⟩ := counted rfl
        exact unspelled count small spelled

theorem inoffensive_single_iff {argument : String} :
    (∀ error, ¬ Offends earlier (.single argument) error) ↔
      ¬ ['-', '-'] <+: argument.toList ∧ singles earlier = [] := by
  constructor
  · intro inoffensive
    have undashed : ¬ ['-', '-'] <+: argument.toList :=
      fun dashed => inoffensive _ (.dashed dashed)
    exact ⟨undashed, by_contra fun placed => inoffensive _ (.second undashed placed)⟩
  · rintro ⟨undashed, free⟩ error offends
    cases offends with
    | dashed dashed => exact undashed dashed
    | second _ placed => exact placed free

/-- A group that breaks no rule is filled into the draft. -/
theorem take_of_inoffensive (inoffensive : ∀ error, ¬ Offends earlier group error) :
    (draft earlier).take group = .ok (draft (earlier ++ [group])) := by
  cases group with
  | unfinished option => exact absurd (.unfinished option) (inoffensive _)
  | single argument =>
      obtain ⟨undashed, free⟩ := inoffensive_single_iff.mp inoffensive
      simp [Draft.take, Draft.place, mt take_eq_dashes_iff.mp undashed, draft, free]
  | setting option value =>
      -- The value becomes the last one of its option, and the count that it spells is read.
      cases option with
      | boot => simp [Draft.take, Draft.assign, draft]
      | output => simp [Draft.take, Draft.assign, draft]
      | frames =>
          obtain ⟨count, small, spelled⟩ := inoffensive_setting_iff.mp inoffensive rfl
          have accepted := Text.readCount_eq_ok_iff.mpr ⟨spelled, small⟩
          simp [Draft.take, Draft.assign, accepted, draft, (Text.spells_iff.mp spelled).2]

theorem clean_nil : Clean [] := by
  intro earlier group later same
  simp at same

theorem clean_concat :
    Clean (groups ++ [group]) ↔ Clean groups ∧ ∀ error, ¬ Offends groups group error := by
  constructor
  · intro clean
    refine ⟨fun earlier inner later same => ?_, clean groups group [] rfl⟩
    exact clean earlier inner (later ++ [group]) (by simp [same])
  · rintro ⟨clean, inoffensive⟩ earlier inner later same
    obtain rfl | ⟨later, last, rfl⟩ := List.eq_nil_or_concat later
    · obtain ⟨rfl, last⟩ := List.append_inj' same rfl
      cases last
      exact inoffensive
    · rw [List.concat_eq_append, ← List.cons_append, ← List.append_assoc] at same
      exact clean earlier inner later (List.append_inj' same rfl).1

/-- Groups that break no rule are all filled in. -/
theorem foldlM_of_clean (clean : Clean groups) :
    groups.foldlM Draft.take {} = .ok (draft groups) := by
  -- From the last group on, because a group is judged by those in front of it.
  induction groups using List.reverseRecOn with
  | nil => rfl
  | append_singleton groups group ih =>
      obtain ⟨before, inoffensive⟩ := clean_concat.mp clean
      rw [List.foldlM_append, ih before]
      exact (bind_pure _).trans (take_of_inoffensive inoffensive)

/-- The first group that breaks a rule is reported. -/
theorem foldlM_of_offends (clean : Clean earlier) (offends : Offends earlier group error) :
    (earlier ++ group :: later).foldlM Draft.take {} = .error error := by
  rw [List.foldlM_append, foldlM_of_clean clean]
  change (draft earlier).take group >>= _ = _
  rw [offends.take_eq]
  rfl

/-- Groups break no rule if they follow those for groups that spell options, but for the
cartridge image, which may be missing. -/
theorem clean_iff :
    Clean groups ↔
      (∀ option, .unfinished option ∉ groups) ∧
      (∀ value ∈ values .frames groups,
        ∃ count ≤ frameLimit, Text.Spells value.toList count) ∧
      (∀ argument ∈ singles groups, ¬ ['-', '-'] <+: argument.toList) ∧
      (singles groups).length ≤ 1 := by
  induction groups using List.reverseRecOn with
  | nil => simp [clean_nil, values, singles]
  | append_singleton groups group ih =>
      rw [clean_concat, ih]
      cases group with
      | unfinished option =>
          refine iff_of_false ?_ ?_
          · rintro ⟨-, inoffensive⟩
            exact inoffensive _ (.unfinished option)
          · rintro ⟨finished, -⟩
            exact finished option (by simp)
      | single argument =>
          rw [inoffensive_single_iff]
          have free : singles groups = [] → (singles groups).length ≤ 1 := by
            intro free
            simp [free]
          simp only [List.mem_append, List.mem_singleton, reduceCtorEq, or_false, values_append,
            values_single, List.append_nil, singles_append, singles_single, or_imp, forall_and,
            forall_eq, List.length_append, List.length_singleton, add_le_iff_nonpos_left,
            nonpos_iff_eq_zero, List.length_eq_zero_iff]
          tauto
      | setting option value =>
          rw [inoffensive_setting_iff]
          simp only [List.mem_append, List.mem_singleton, reduceCtorEq, or_false, values_append,
            values_setting, List.mem_ite_nil_right, or_imp, and_imp, forall_and,
            forall_eq_apply_imp_iff, singles_append, singles_setting, List.append_nil]
          tauto

theorem grammatical_iff : Grammatical groups ↔ Clean groups ∧ singles groups ≠ [] := by
  rw [clean_iff]
  constructor
  · intro grammatical
    have one := grammatical.single
    refine ⟨⟨grammatical.finished, grammatical.counted, grammatical.undashed, one.le⟩, ?_⟩
    exact List.ne_nil_of_length_pos (one ▸ Nat.one_pos)
  · rintro ⟨⟨finished, counted, undashed, atMost⟩, named⟩
    have atLeast := List.length_pos_iff.mpr named
    exact ⟨finished, counted, undashed, by omega⟩

theorem clean_or_rejected (groups : List ArgumentGroup) :
    Clean groups ∨ ∃ error, Rejected groups error := by
  induction groups using List.reverseRecOn with
  | nil => exact .inl clean_nil
  | append_singleton groups group ih =>
      by_cases clean : Clean groups
      · by_cases offended : ∃ error, Offends groups group error
        · obtain ⟨error, offends⟩ := offended
          exact .inr ⟨error, .offended rfl clean offends⟩
        · exact .inl (clean_concat.mpr ⟨clean, not_exists.mp offended⟩)
      · obtain ⟨error, rejected⟩ := ih.resolve_left clean
        cases rejected with
        | offended split before offends =>
            rw [split, List.append_assoc]
            exact .inr ⟨error, .offended rfl before offends⟩
        | missing before => exact absurd before clean

/-- Groups that do not follow the rules are rejected. -/
theorem grammatical_or_rejected (groups : List ArgumentGroup) :
    Grammatical groups ∨ ∃ error, Rejected groups error := by
  obtain clean | rejected := clean_or_rejected groups
  · by_cases unnamed : singles groups = []
    · exact .inr ⟨_, .missing clean unnamed⟩
    · exact .inl (grammatical_iff.mpr ⟨clean, unnamed⟩)
  · exact .inr rejected

theorem draft_congr {other : List ArgumentGroup} (same : singles other = singles groups)
    (alike : ∀ option, values option other = values option groups) :
    draft other = draft groups := by
  simp only [draft, same, alike]

/-- What is left out of groups that spell options has its default. -/
theorem Grammatical.finish_eq (grammatical : Grammatical groups) :
    ∃ options, (draft groups).finish = .ok options ∧ Denotes groups options := by
  obtain ⟨rom, named⟩ := List.length_eq_one_iff.mp grammatical.single
  refine ⟨_, by rw [Draft.finish, draft, named]; rfl, named, rfl, ?_, rfl⟩
  cases last : (values .frames groups).getLast? with
  | none => rfl
  | some value =>
      obtain ⟨count, -, spelled⟩ := grammatical.counted value (List.mem_of_getLast? last)
      exact Text.spells_iff.mpr ⟨(Text.spells_iff.mp spelled).1, rfl⟩

/-- A rearrangement of groups that spell options follows the rules as well. -/
theorem Grammatical.reorder {reordered : List ArgumentGroup} (grammatical : Grammatical groups)
    (same : reordered.Perm groups)
    (alike : ∀ option, values option reordered = values option groups) :
    Grammatical reordered ∧ singles reordered = singles groups := by
  obtain ⟨rom, named⟩ := List.length_eq_one_iff.mp grammatical.single
  have kept : singles reordered = singles groups := by
    have shuffled : (singles reordered).Perm (singles groups) := same.filterMap single?
    rw [named] at shuffled ⊢
    exact List.perm_singleton.mp shuffled
  refine ⟨⟨fun option => ?_, ?_, ?_, ?_⟩, kept⟩
  · exact mt same.mem_iff.mp (grammatical.finished option)
  · rw [alike]
    exact grammatical.counted
  · rw [kept]
    exact grammatical.undashed
  · rw [kept]
    exact grammatical.single

end ArgumentGroup

theorem parse_of_clean {arguments : List String} (clean : Clean (ofArguments arguments)) :
    Options.parse arguments = (draft (ofArguments arguments)).finish := by
  rw [Options.parse, Draft.read_eq, foldlM_of_clean clean]
  rfl

theorem parse_of_rejected {arguments : List String} {error : UsageError}
    (rejected : Rejected (ofArguments arguments) error) :
    Options.parse arguments = .error error := by
  cases rejected with
  | offended split clean offends =>
      rw [Options.parse, Draft.read_eq, split, foldlM_of_offends clean offends]
      rfl
  | missing clean unnamed =>
      rw [parse_of_clean clean, Draft.finish, draft, unnamed]
      rfl

theorem parse_of_grammatical {arguments : List String}
    (grammatical : Grammatical (ofArguments arguments)) :
    ∃ options, Options.parse arguments = .ok options ∧
      Denotes (ofArguments arguments) options := by
  rw [parse_of_clean (grammatical_iff.mp grammatical).1]
  exact grammatical.finish_eq

theorem grammatical_of_parse {arguments : List String} {options : Options}
    (parsed : Options.parse arguments = .ok options) :
    Grammatical (ofArguments arguments) := by
  obtain grammatical | ⟨error, rejected⟩ := grammatical_or_rejected (ofArguments arguments)
  · exact grammatical
  · rw [parse_of_rejected rejected] at parsed
    cases parsed

theorem rejected_of_parse {arguments : List String} {error : UsageError}
    (failed : Options.parse arguments = .error error) :
    Rejected (ofArguments arguments) error := by
  obtain grammatical | ⟨first, rejected⟩ := grammatical_or_rejected (ofArguments arguments)
  · obtain ⟨options, parsed, -⟩ := parse_of_grammatical grammatical
    rw [parsed] at failed
    cases failed
  · obtain rfl : first = error :=
      Except.error.inj ((parse_of_rejected rejected).symm.trans failed)
    exact rejected

/-- The order of the groups does not matter, but for the values of the same option. -/
theorem parse_reordered {arguments : List String} {options : Options}
    (parsed : Options.parse arguments = .ok options) {reordered : List ArgumentGroup}
    (same : reordered.Perm (ofArguments arguments))
    (alike : ∀ option, values option reordered = values option (ofArguments arguments)) :
    Options.parse (reordered.flatMap tokens) = .ok options := by
  have grammatical := grammatical_of_parse parsed
  obtain ⟨again, kept⟩ := grammatical.reorder same alike
  have proper : Proper reordered :=
    proper_of_finished again.finished fun argument member =>
      (proper_ofArguments arguments).unclaimed (same.mem_iff.mp member)
  have regrouped := ofArguments_flatMap_tokens proper
  have clean : Clean (ofArguments (reordered.flatMap tokens)) := by
    rw [regrouped]
    exact (grammatical_iff.mp again).1
  rw [parse_of_clean clean, regrouped, draft_congr kept alike,
    ← parse_of_clean (grammatical_iff.mp grammatical).1, parsed]

/-- An argument list spells options if and only if its groups follow the rules, and then those
that the groups denote, in any order of the groups that keeps the values of each option in
theirs. Otherwise the first group that breaks a rule is reported, and a missing cartridge image
only if no group breaks one. -/
theorem parse_follows_grammar (arguments : List String) :
    (∀ groups, ofArguments arguments = groups ↔
      groups.flatMap tokens = arguments ∧ Proper groups) ∧
    ((∃ options, Options.parse arguments = .ok options) ↔ Grammatical (ofArguments arguments)) ∧
    (∀ options, Options.parse arguments = .ok options →
      Denotes (ofArguments arguments) options ∧
      ∀ reordered, reordered.Perm (ofArguments arguments) →
        (∀ option, values option reordered = values option (ofArguments arguments)) →
        Options.parse (reordered.flatMap tokens) = .ok options) ∧
    ∀ error, Options.parse arguments = .error error ↔
      Rejected (ofArguments arguments) error := by
  refine ⟨fun groups => ofArguments_eq_iff, ⟨?accepts, ?accepted⟩, ?spelled,
    fun error => ⟨rejected_of_parse, parse_of_rejected⟩⟩
  case accepts =>
    rintro ⟨options, parsed⟩
    exact grammatical_of_parse parsed
  case accepted =>
    intro grammatical
    obtain ⟨options, parsed, -⟩ := parse_of_grammatical grammatical
    exact ⟨options, parsed⟩
  case spelled =>
    intro options parsed
    obtain ⟨others, again, denotes⟩ := parse_of_grammatical (grammatical_of_parse parsed)
    obtain rfl : others = options := Except.ok.inj (again.symm.trans parsed)
    exact ⟨denotes, fun reordered same alike => parse_reordered parsed same alike⟩

/-- An option whose value is written like another, and another that occurs twice. -/
theorem parse_follows_grammar_of_swallowed :
    Options.parse ["--out", "--frames", "--frames", "+7", "game.gb", "--frames", "2"] =
        .ok { rom := "game.gb", frames := 2, output := "--frames" } ∧
      Options.parse ["--frames", "+7", "game.gb", "--frames", "2", "--out", "--frames"] =
        .ok { rom := "game.gb", frames := 2, output := "--frames" } := by
  have parsed :
      Options.parse ["--out", "--frames", "--frames", "+7", "game.gb", "--frames", "2"] =
        .ok { rom := "game.gb", frames := 2, output := "--frames" } := by
    rfl
  refine ⟨parsed, ?_⟩
  obtain ⟨-, reorder⟩ := (parse_follows_grammar _).2.2.1 _ parsed
  exact reorder [.setting .frames "+7", .single "game.gb", .setting .frames "2",
    .setting .output "--frames"] (by decide) fun option => by cases option <;> rfl

end GameBoy.CommandLine
