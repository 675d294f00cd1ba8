import Mathlib.Data.List.TakeWhile
import MatchedLines.Options.Items
import MatchedLines.Proofs.FailureReports

/-! The program accepts exactly the command lines that its option language can spell, and takes
them to mean what their items say (`parse_accepts_language`). One step of the scan reads one item,
or comes to the end of the options, or keeps an argument; and what is kept is never given up, so
that it shows in the end. -/
namespace MatchedLines.Options

variable {s final : Scan} {o : Options} {args rest : List Text} {arg word : Text}
  {items : List Item}

/-! ### What items ask for -/

/-- What items make of the options that were there before them. -/
def amended (o : Options) (items : List Item) : Options where
  verbose := items.any Item.asksVerbose || o.verbose
  binary := (items.filterMap Item.binary?).getLast?.getD o.binary
  dryRun := items.any Item.asksDryRun || o.dryRun

/-- Items can be heard one at a time. -/
theorem amended_cons (o : Options) (i : Item) (items : List Item) :
    amended o (i :: items) = amended (amended o [i]) items := by
  have named : ((i :: items).filterMap Item.binary?).getLast?.getD o.binary =
      (items.filterMap Item.binary?).getLast?.getD (amended o [i]).binary := by
    cases value : i.binary? with
    | none => simp [amended, value]
    | some value' => simp [amended, value, List.getLast?_cons]
  simp only [amended, List.any_cons, List.any_nil, Bool.or_false, Options.mk.injEq]
  refine ⟨?_, named, ?_⟩
  · rw [Bool.or_comm i.asksVerbose, Bool.or_assoc]
  · rw [Bool.or_comm i.asksDryRun, Bool.or_assoc]

theorem meaning_eq_amended (items : List Item) : meaning items = amended {} items := by
  simp [meaning, amended]

/-- The formatter that is named last, if any is, has a name. -/
def NamesFormatter (items : List Item) : Prop :=
  (items.filterMap Item.binary?).getLast? ≠ some []

instance : Decidable (NamesFormatter items) :=
  inferInstanceAs (Decidable ((items.filterMap Item.binary?).getLast? ≠ some []))

theorem namesFormatter_iff : NamesFormatter items ↔ (meaning items).binary ≠ [] := by
  unfold NamesFormatter meaning
  cases (items.filterMap Item.binary?).getLast? with
  | none => simp
  | some value => simp

/-- The scan when items were read. They change the options and nothing else. -/
def Scan.said (s : Scan) (items : List Item) : Scan := { s with options := amended s.options items }

/-- Setting the flags of a word one by one is hearing the item. -/
theorem foldl_setFlag (s : Scan) (flags : word.all isFlag = true) :
    word.foldl Scan.setFlag s = s.said [.flags word] := by
  induction word generalizing s with
  | nil => rfl
  | cons c word ih =>
    obtain ⟨flag, flags⟩ := Bool.and_eq_true_iff.1 flags
    rw [List.foldl_cons, ih _ flags]
    have known : c = 'v' ∨ c = 'n' := by simpa [isFlag] using flag
    rcases known with rfl | rfl <;>
      simp [Scan.said, Scan.setFlag, amended, Item.asksVerbose, Item.asksDryRun, Item.binary?]

/-! ### One argument -/

/-- What taking the flags off an argument can give. -/
inductive FlagsTaken : Text → Text × Option Text → Prop
  /-- There are flags only, and nothing is left. -/
  | word {word : Text} (notEmpty : word ≠ []) (flags : word.all isFlag = true) :
      FlagsTaken ('-' :: word) (word, none)
  /-- There are no flags in front. -/
  | whole (arg : Text) : FlagsTaken arg ([], some arg)
  /-- Something else follows the flags, and takes the dash over. -/
  | cut {word : Text} {c : Char} {back : Text} (notEmpty : word ≠ [])
      (flags : word.all isFlag = true) (other : isFlag c = false) :
      FlagsTaken ('-' :: (word ++ c :: back)) (word, some ('-' :: c :: back))

theorem flagsTaken_takeFlags (arg : Text) : FlagsTaken arg (takeFlags arg) := by
  unfold takeFlags
  split
  · rename_i word
    have whole := List.takeWhile_append_dropWhile (p := isFlag) (l := word)
    have flags : (word.takeWhile isFlag).all isFlag = true := List.all_takeWhile
    have stops := List.head?_dropWhile_not isFlag word
    generalize word.takeWhile isFlag = front at whole flags
    generalize word.dropWhile isFlag = back at whole stops
    subst whole
    cases front with
    | nil => cases back <;> exact .whole _
    | cons d front =>
      have notEmpty : d :: front ≠ [] := List.cons_ne_nil d front
      cases back with
      | nil => simpa using FlagsTaken.word notEmpty flags
      | cons c back => exact .cut notEmpty flags (by simpa using stops)
  · exact .whole arg

theorem takeFlags_word (notEmpty : word ≠ []) (flags : word.all isFlag = true) :
    takeFlags ('-' :: word) = (word, none) := by
  have all : ∀ c ∈ word, isFlag c = true := List.all_eq_true.1 flags
  simp [takeFlags, List.takeWhile_eq_self_iff.2 all, List.dropWhile_eq_nil_iff.2 all, notEmpty]

theorem takeFlags_cut {c : Char} (back : Text) (flags : word.all isFlag = true)
    (other : isFlag c = false) :
    takeFlags ('-' :: (word ++ c :: back)) = (word, some ('-' :: c :: back)) := by
  have all : ∀ c ∈ word, isFlag c = true := List.all_eq_true.1 flags
  simp [takeFlags, List.takeWhile_append_of_pos all, List.dropWhile_append_of_pos all, other]

example : takeFlags "-v-dry-run".toList = (['v'], some "--dry-run".toList) := rfl

/-- Short flags with a dash behind them in the same argument. What is left of it when the flags
are taken begins with two dashes, and is read like a long option. -/
def HidesLong (arg : Text) : Prop :=
  ∃ word back, word ≠ [] ∧ word.all isFlag = true ∧ arg = '-' :: (word ++ '-' :: back)

theorem hidesLong_iff :
    HidesLong arg ↔ (takeFlags arg).1 ≠ [] ∧ "--".toList <+: (takeFlags arg).2.getD [] := by
  constructor
  · rintro ⟨word, back, notEmpty, flags, rfl⟩
    rw [takeFlags_cut back flags rfl]
    exact ⟨notEmpty, back, rfl⟩
  · rintro ⟨notEmpty, dashes⟩
    have taken := flagsTaken_takeFlags arg
    generalize takeFlags arg = pieces at taken notEmpty dashes
    cases taken with
    | word => simp at dashes
    | whole => exact absurd rfl notEmpty
    | @cut word c back notEmpty flags =>
      obtain rfl : '-' = c := by simpa using dashes
      exact ⟨word, back, notEmpty, flags, rfl⟩

instance : Decidable (HidesLong arg) := decidable_of_iff' _ hidesLong_iff

/-- What is written where an argument of this kind is found. -/
def Kind.IsWritten (arg : Text) : Kind → Prop
  | endOfOptions => arg = "--".toList
  | verbose => arg = "--verbose".toList
  | dryRun => arg = "--dry-run".toList
  | binary => arg = "--binary".toList
  | binaryIs value => arg = "--binary=".toList ++ value
  | version | unknown | operand => True

theorem kind_isWritten (arg : Text) : (kind arg).IsWritten arg := by
  unfold kind
  split_ifs with ends isVersion isVerbose isDryRun isBinary named
  · exact ends
  · trivial
  · exact isVerbose
  · exact isDryRun
  · exact isBinary
  · obtain ⟨value, rfl⟩ := List.isPrefixOf_iff_prefix.1 named
    rfl
  · split <;> trivial

/-- With flags and second dashes aside, one dash begins nothing but the request for the version: all
else is unknown. -/
theorem kind_dash {c : Char} (back : Text) (other : c ≠ '-') :
    kind ('-' :: c :: back) = .version ∨ kind ('-' :: c :: back) = .unknown := by
  by_cases isVersion : c = 'V'
  · subst isVersion
    exact .inl rfl
  · right
    simp [kind, other, Ne.symm isVersion, Ne.symm other]

/-! ### Items are read as they are written -/

/-- Reading an item does what it says, and goes on behind it. -/
theorem scan_item (s : Scan) {i : Item} (proper : i.isProper = true) (args : List Text) :
    scan s (i.args ++ args) = scan (s.said [i]) args := by
  cases i with
  | flags word =>
    obtain ⟨notEmpty, flags⟩ : word ≠ [] ∧ word.all isFlag = true := by
      simpa [Item.isProper] using proper
    rw [← foldl_setFlag s flags]
    simp only [Item.args, List.singleton_append, scan, takeFlags_word notEmpty flags]
  | verbose =>
    have whole : takeFlags "--verbose".toList = ([], some "--verbose".toList) := rfl
    have isKind : kind "--verbose".toList = .verbose := rfl
    simp only [Item.args, List.singleton_append, scan, whole, isKind]
    rfl
  | dryRun =>
    have whole : takeFlags "--dry-run".toList = ([], some "--dry-run".toList) := rfl
    have isKind : kind "--dry-run".toList = .dryRun := rfl
    simp only [Item.args, List.singleton_append, scan, whole, isKind]
    rfl
  | binary value =>
    have whole : takeFlags "--binary".toList = ([], some "--binary".toList) := rfl
    have isKind : kind "--binary".toList = .binary := rfl
    simp only [Item.args, List.cons_append, List.nil_append, scan, whole, isKind]
    rfl
  | binaryIs value =>
    have whole : takeFlags ("--binary=".toList ++ value) =
        ([], some ("--binary=".toList ++ value)) := rfl
    have isKind : kind ("--binary=".toList ++ value) = .binaryIs value := rfl
    simp only [Item.args, List.singleton_append, scan, whole, isKind]
    rfl

theorem spell_cons (i : Item) (items : List Item) (closed : Bool) :
    spell (i :: items) closed = i.args ++ spell items closed := by
  simp [spell]

theorem Scan.keepRest_nil (known : s.unknown = []) : s.keepRest [] = s := by
  obtain ⟨options, operands, unknown⟩ := s
  subst known
  simp [keepRest, keep]

theorem Scan.said_cons (s : Scan) (i : Item) (items : List Item) :
    s.said (i :: items) = (s.said [i]).said items := by
  unfold said
  rw [amended_cons s.options i items]

theorem scan_spell (s : Scan) (proper : ∀ i ∈ items, i.isProper = true) (closed : Bool)
    (known : s.unknown = []) : scan s (spell items closed) = .ok (s.said items) := by
  induction items generalizing s with
  | nil =>
    cases closed with
    | false => rfl
    | true => exact congrArg Except.ok (Scan.keepRest_nil known)
  | cons i items ih =>
    obtain ⟨first, others⟩ := List.forall_mem_cons.1 proper
    rw [spell_cons, scan_item s first, ih (s.said [i]) others known, ← Scan.said_cons]

/-! ### Nothing but items is read -/

/-- No argument was kept. -/
def Scan.IsClean (s : Scan) : Prop := s.operands = [] ∧ s.unknown = []

theorem Scan.isClean_keep_iff : (s.keep args).IsClean ↔ s.IsClean ∧ args = [] := by
  unfold keep IsClean
  split
  · simp only [List.append_eq_nil_iff]
    exact and_right_comm
  · simp only [List.append_eq_nil_iff]
    exact and_assoc.symm

theorem Scan.not_isClean_keepUnknown : ¬ (s.keepUnknown arg).IsClean := by
  simp [keepUnknown, IsClean]

theorem Scan.isClean_keepRest_iff : (s.keepRest args).IsClean ↔ s.IsClean ∧ args = [] := by
  unfold keepRest
  split
  · exact isClean_keep_iff
  · rename_i unknown
    have dirty : ¬ s.IsClean := fun clean => unknown (by simp [clean.2])
    simp [isClean_keep_iff, dirty]

/-- One step of a scan that does not stop: the options end, or an item is read, or the argument is
kept. -/
theorem scan_cons_cases (apart : ¬ HidesLong arg) (read : scan s (arg :: args) = .ok final) :
    (arg = "--".toList ∧ final = s.keepRest args) ∨
    (∃ i rest, i.isProper = true ∧ arg :: args = i.args ++ rest ∧
      scan (s.said [i]) rest = .ok final) ∨
    ∃ t : Scan, ¬ t.IsClean ∧ scan t args = .ok final := by
  have taken := flagsTaken_takeFlags arg
  rw [scan] at read
  generalize takeFlags arg = pieces at taken read
  cases taken with
  | @word word notEmpty flags =>
    dsimp only at read
    rw [foldl_setFlag s flags] at read
    exact .inr (.inl ⟨.flags word, args, by simp [Item.isProper, notEmpty, flags], rfl, read⟩)
  | whole =>
    have written := kind_isWritten arg
    simp only [List.foldl_nil] at read
    cases isKind : kind arg with
    | endOfOptions =>
      rw [isKind] at read written
      cases read
      exact .inl ⟨written, rfl⟩
    | version =>
      rw [isKind] at read
      cases read
    | verbose =>
      rw [isKind] at read written
      exact .inr (.inl ⟨.verbose, args, rfl, congrArg (· :: args) written, read⟩)
    | dryRun =>
      rw [isKind] at read written
      exact .inr (.inl ⟨.dryRun, args, rfl, congrArg (· :: args) written, read⟩)
    | binary =>
      rw [isKind] at read written
      cases args with
      | nil => cases read
      | cons value args =>
        exact .inr (.inl ⟨.binary value, args, rfl, congrArg (· :: value :: args) written, read⟩)
    | binaryIs value =>
      rw [isKind] at read written
      exact .inr (.inl ⟨.binaryIs value, args, rfl, congrArg (· :: args) written, read⟩)
    | unknown =>
      rw [isKind] at read
      exact .inr (.inr ⟨s.keepUnknown arg, Scan.not_isClean_keepUnknown, read⟩)
    | operand =>
      rw [isKind] at read
      exact .inr (.inr ⟨s.keep [arg], by simp [Scan.isClean_keep_iff], read⟩)
  | @cut word c back notEmpty flags =>
    have noDash : c ≠ '-' := by
      rintro rfl
      exact apart ⟨word, back, notEmpty, flags, rfl⟩
    dsimp only at read
    rcases kind_dash back noDash with isKind | isKind
    · rw [isKind] at read
      cases read
    · rw [isKind] at read
      exact .inr (.inr ⟨_, Scan.not_isClean_keepUnknown, read⟩)

theorem Item.args_ne_nil (i : Item) : i.args ≠ [] := by
  cases i <;> simp [args]

/-- A scan that keeps nothing has read items, and what they asked for is what has changed. -/
theorem exists_items_of_scan (apart : ∀ arg ∈ args, ¬ HidesLong arg)
    (read : scan s args = .ok final) (clean : final.IsClean) :
    s.IsClean ∧ ∃ items closed, (∀ i ∈ items, i.isProper = true) ∧ args = spell items closed ∧
      final.options = amended s.options items := by
  -- An item may take two arguments, so the induction is on how many there are.
  induction size : args.length using Nat.strongRecOn generalizing s args with
  | ind n ih =>
    cases args with
    | nil =>
      cases read
      exact ⟨clean, [], false, by simp, rfl, rfl⟩
    | cons arg args =>
      obtain ⟨first, others⟩ := List.forall_mem_cons.1 apart
      rcases scan_cons_cases first read with
        ⟨rfl, rfl⟩ | ⟨i, rest, proper, split, read⟩ | ⟨t, dirty, read⟩
      · obtain ⟨before, rfl⟩ := Scan.isClean_keepRest_iff.1 clean
        have same : s.keepRest [] = s := Scan.keepRest_nil before.2
        exact ⟨before, [], true, by simp, rfl, congrArg Scan.options same⟩
      · have shorter : rest.length < n := by
          have sizes := congrArg List.length split
          have positive := List.length_pos_iff.2 i.args_ne_nil
          rw [size, List.length_append] at sizes
          omega
        have apart : ∀ arg ∈ rest, ¬ HidesLong arg := fun arg member =>
          apart arg (split ▸ List.mem_append_right _ member)
        obtain ⟨before, items, closed, others, isRest, options⟩ := ih _ shorter apart read rfl
        refine ⟨before, i :: items, closed, List.forall_mem_cons.2 ⟨proper, others⟩, ?_, ?_⟩
        · rw [split, isRest, spell_cons]
        · rw [options, amended_cons]
          rfl
      · have shorter : args.length < n := by simp [← size]
        obtain ⟨before, -⟩ := ih _ shorter others read rfl
        exact absurd before dirty

/-! ### The language -/

/-- The arguments are these items, one behind the other. -/
structure IsSpelling (args : List Text) (items : List Item) : Prop where
  proper : ∀ i ∈ items, i.isProper = true
  spelled : ∃ closed, args = spell items closed

/-- The first arguments tell the first item: only a word of flags could be taken for another, and
its letters are no dashes. -/
theorem Item.eq_of_args_append {i j : Item} {rest' : List Text} (proper : i.isProper = true)
    (proper' : j.isProper = true) (same : i.args ++ rest = j.args ++ rest') :
    i = j ∧ rest = rest' := by
  have dash : isFlag '-' = false := rfl
  cases i <;> cases j <;> simp [args] at same <;> grind [isProper]

/-- No item begins like the end of the options. -/
theorem Item.args_append_ne {i : Item} (proper : i.isProper = true) (closed : Bool) :
    i.args ++ rest ≠ spell [] closed := by
  cases closed with
  | false => simp [spell, i.args_ne_nil]
  | true =>
    cases i with
    | flags word =>
      intro same
      obtain ⟨rfl, -⟩ : word = ['-'] ∧ rest = [] := by simpa [args, spell] using same
      cases proper
    | verbose | dryRun | binary | binaryIs => simp [args, spell]

/-- Arguments can be read as items in one way only. -/
theorem IsSpelling.unique {other : List Item} (spelling : IsSpelling args items)
    (also : IsSpelling args other) : items = other := by
  obtain ⟨proper, closed, rfl⟩ := spelling
  obtain ⟨properOther, closedOther, same⟩ := also
  induction items generalizing other with
  | nil =>
    cases other with
    | nil => rfl
    | cons j other =>
      rw [spell_cons] at same
      exact absurd same.symm (Item.args_append_ne (properOther j List.mem_cons_self) closed)
  | cons i items ih =>
    obtain ⟨first, rest⟩ := List.forall_mem_cons.1 proper
    rw [spell_cons] at same
    cases other with
    | nil => exact absurd same (Item.args_append_ne first closedOther)
    | cons j other =>
      obtain ⟨firstOther, restOther⟩ := List.forall_mem_cons.1 properOther
      rw [spell_cons] at same
      obtain ⟨rfl, sameRest⟩ := Item.eq_of_args_append first firstOther same
      rw [ih rest restOther sameRest]

/-- What is said is accepted if it names a formatter, and means what it says. -/
theorem parse_of_isSpelling (spelling : IsSpelling args items) (named : NamesFormatter items) :
    parse args = .ok (meaning items) := by
  obtain ⟨proper, closed, rfl⟩ := spelling
  refine parse_eq_ok_iff.2 ⟨_, scan_spell {} proper closed rfl, Scan.finish_eq_ok_iff.2 ?_⟩
  rw [namesFormatter_iff, meaning_eq_amended] at named
  exact ⟨rfl, rfl, named, (meaning_eq_amended items).symm⟩

/-- What is accepted was said. -/
theorem exists_isSpelling_of_parse (apart : ∀ arg ∈ args, ¬ HidesLong arg)
    (accepted : parse args = .ok o) :
    ∃ items, IsSpelling args items ∧ NamesFormatter items ∧ o = meaning items := by
  obtain ⟨final, read, finished⟩ := parse_eq_ok_iff.1 accepted
  obtain ⟨noOperand, noUnknown, named, rfl⟩ := Scan.finish_eq_ok_iff.1 finished
  obtain ⟨-, items, closed, proper, spelled, options⟩ :=
    exists_items_of_scan apart read ⟨noOperand, noUnknown⟩
  rw [← meaning_eq_amended] at options
  rw [options] at named
  exact ⟨items, ⟨proper, closed, spelled⟩, namesFormatter_iff.2 named, options⟩

/-- Without options the program shows what it was asked for and succeeds, or it complains and
fails. -/
theorem Stop.shown_cases (stop : Stop) :
    (stop.exitCode = 0 ∧ Program.stopEvent stop = .write .stdout stop.message ∧
      (stop.message = "0.1.0\n".toList ∨ stop.message = helpText)) ∨
    (stop.exitCode = 1 ∧ Program.stopEvent stop = .write .stderr stop.message ∧
      stop.message ≠ []) := by
  cases stop with
  | version => exact .inl ⟨rfl, rfl, .inl rfl⟩
  | help => exact .inl ⟨rfl, rfl, .inr rfl⟩
  | missingBinary | unknownOption | tooManyOperands | emptyBinary =>
    exact .inr ⟨rfl, rfl, message_ne_nil Int.one_ne_zero⟩

/-- **The program accepts exactly its option language.** If no argument hides a long option behind
short flags, the options are accepted when the arguments are items, one behind the other, of which
the last that names a formatter gives it a name; and then they are what the items mean, in
whatever order they stand and however often. There is only one way to read them as items, so that
no argument goes unheard. In every other case there are no options and nothing is run: the program
shows its version or its help and succeeds, or it complains on its error stream and fails. -/
theorem parse_accepts_language (args : List Text) (apart : ∀ arg ∈ args, ¬ HidesLong arg) :
    (∀ o, parse args = .ok o ↔
      ∃ items, IsSpelling args items ∧ NamesFormatter items ∧ o = meaning items) ∧
    (∀ items other, IsSpelling args items → IsSpelling args other → items = other) ∧
    ((¬ ∃ items, IsSpelling args items ∧ NamesFormatter items) →
      ∃ stop, parse args = .error stop ∧
        (∀ {σ : Type} (coloured terminal : Bool) (input : Source) (system : Spawn.System σ) (s : σ),
          Program.run coloured terminal args input system s =
            ⟨[Program.stopEvent stop], stop.exitCode, s⟩) ∧
        ((stop.exitCode = 0 ∧ Program.stopEvent stop = .write .stdout stop.message ∧
          (stop.message = "0.1.0\n".toList ∨ stop.message = helpText)) ∨
        (stop.exitCode = 1 ∧ Program.stopEvent stop = .write .stderr stop.message ∧
          stop.message ≠ []))) := by
  refine ⟨fun o => ⟨exists_isSpelling_of_parse apart, ?_⟩, fun _ _ => IsSpelling.unique, ?_⟩
  · rintro ⟨items, spelling, named, rfl⟩
    exact parse_of_isSpelling spelling named
  · intro unsaid
    cases parsed : parse args with
    | ok o =>
      obtain ⟨items, spelling, named, -⟩ := exists_isSpelling_of_parse apart parsed
      exact absurd ⟨items, spelling, named⟩ unsaid
    | error stop =>
      refine ⟨stop, rfl, fun coloured terminal input system s => ?_, stop.shown_cases⟩
      rw [Program.run, parsed]

/-- A formatter named `--` does not end the options, and one that is named last without a name
is not made up for by the one before it. -/
theorem parse_accepts_language_swallowed :
    let said : List Text :=
      ["-nv", "--binary", "--", "--verbose", "--binary=cf", "--"].map String.toList
    let unnamed : List Text := ["--binary=cf", "-n", "--binary", ""].map String.toList
    (∀ arg ∈ said ++ unnamed, ¬ HidesLong arg) ∧
      parse said = .ok { verbose := true, binary := "cf".toList, dryRun := true } ∧
      ∃ stop, parse unnamed = .error stop ∧ (stop.exitCode = 0 ∨ stop.exitCode = 1) := by
  intro said unnamed
  have apart : ∀ arg ∈ said ++ unnamed, ¬ HidesLong arg := by decide
  obtain ⟨apartSaid, apartUnnamed⟩ := List.forall_mem_append.1 apart
  obtain ⟨accepts, -⟩ := parse_accepts_language said apartSaid
  obtain ⟨-, unique, refuses⟩ := parse_accepts_language unnamed apartUnnamed
  let items : List Item :=
    [.flags "nv".toList, .binary "--".toList, .verbose, .binaryIs "cf".toList]
  have spelled : IsSpelling said items := ⟨by decide, true, rfl⟩
  let others : List Item := [.binaryIs "cf".toList, .flags "n".toList, .binary []]
  have spellsOthers : IsSpelling unnamed others := ⟨by decide, false, rfl⟩
  refine ⟨apart, (accepts _).2 ⟨items, spelled, by decide, rfl⟩, ?_⟩
  obtain ⟨stop, refused, -, shown⟩ := refuses (by
    rintro ⟨found, spellsFound, named⟩
    rw [unique found others spellsFound spellsOthers] at named
    exact named rfl)
  exact ⟨stop, refused, shown.imp And.left And.left⟩

end MatchedLines.Options
