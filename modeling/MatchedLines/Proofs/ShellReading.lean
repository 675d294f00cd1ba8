import Mathlib.Data.List.Forall2
import Mathlib.Data.List.TakeWhile
import MatchedLines.Command.Words
import MatchedLines.Proofs.DryRun
import MatchedLines.Proofs.RunCoverage
import MatchedLines.Proofs.RunPrefix

/-! What a printed command is by the grammar of a simple command. Every word is read back as it was,
whether it stands bare or in quotes (`Words.read_lines`), so the words of a dry run are those of the
run in earnest. Which of them is the command word is decided by the first: one that reads
`NAME=value` and needs no quotes is taken for an assignment, and then the command is another
(`dryRun_pasted_iff`). What a shell does with a command word that is reserved, a builtin or an alias
is left out. -/
namespace MatchedLines

namespace Command

namespace Quoted

/-- Whether a word is written as it stands. -/
def isBare (w : Text) : Bool := !w.isEmpty && w.all isPlain

/-- What a shell reads where a word is written: its characters, quoted all of them or none. -/
def letters (w : Text) : Word := w.map (⟨·, !isBare w⟩)

@[simp] theorem text_letters (w : Text) : Word.text (letters w) = w := by
  simp [letters, Word.text, Function.comp_def]

/-- To a shell a plain character is one like any other. -/
theorem ordinary_of_isPlain {c : Char} (plain : isPlain c = true) :
    c ≠ '\n' ∧ Words.isBlank c = false ∧ c ≠ '\'' ∧ c ≠ '\\' ∧ Words.isSpecial c = false := by
  have meant : "\n \t'\\$\x60\"*?[]~#;&|<>()\x7b\x7d!".toList.all (fun d => !isPlain d) = true := by
    decide
  have other (d : Char) (listed : d ∈ "\n \t'\\$\x60\"*?[]~#;&|<>()\x7b\x7d!".toList) : c ≠ d := by
    rintro rfl
    have notPlain := List.all_eq_true.1 meant c listed
    rw [plain] at notPlain
    cases notPlain
  refine ⟨other _ (by decide), ?_, other _ (by decide), other _ (by decide), ?_⟩
  · simp [Words.isBlank, other ' ' (by decide), other '\t' (by decide)]
  · rw [Words.isSpecial, Bool.eq_false_iff]
    intro special
    have listed := List.contains_iff_mem.1 special
    refine other c ?_ rfl
    exact (List.drop_sublist 5 _).subset listed

end Quoted

namespace Words

open Quoted

variable (words : List Word) (begun : Word) (t : Text)

/-- Where a word begins, the reader is in a word without letters. -/
theorem readFrom_begin {c : Char} (notEnd : c ≠ '\n') (notBlank : isBlank c = false) :
    readFrom words .between (c :: t) = readFrom words (.inWord []) (c :: t) := by
  simp [readFrom, notEnd, notBlank, Place.letters]

/-- Plain characters go on with the word. -/
theorem readFrom_plain {w : Text} (plain : ∀ c ∈ w, isPlain c = true) :
    readFrom words (.inWord begun) (w ++ t) =
      readFrom words (.inWord (begun ++ w.map (⟨·, false⟩))) t := by
  induction w generalizing begun with
  | nil => simp
  | cons c w ih =>
    obtain ⟨notEnd, notBlank, notQuote, notBackslash, notSpecial⟩ :=
      ordinary_of_isPlain (plain c (by simp))
    have goesOn : readFrom words (.inWord begun) (c :: (w ++ t)) =
        readFrom words (.inWord (begun ++ [⟨c, false⟩])) (w ++ t) := by
      simp [readFrom, notEnd, notBlank, notQuote, notBackslash, notSpecial, Place.letters]
    rw [List.cons_append, goesOn, ih _ fun d member => plain d (by simp [member])]
    simp

/-- Between quotes every character is itself. A quote ends them, stands behind a backslash, and
begins them again, so it is quoted like the others. -/
theorem readFrom_escape (w : Text) :
    readFrom words (.inQuotes begun) (w.flatMap escape ++ '\'' :: t) =
      readFrom words (.inWord (begun ++ w.map (⟨·, true⟩))) t := by
  induction w generalizing begun with
  | nil => simp [readFrom]
  | cons c w ih =>
    have goesOn (rest : Text) : readFrom words (.inQuotes begun) (escape c ++ rest) =
        readFrom words (.inQuotes (begun ++ [⟨c, true⟩])) rest := by
      by_cases quote : c = '\''
      · subst quote
        simp [escape, readFrom, isBlank, Place.letters]
      · simp [escape, readFrom, quote]
    rw [List.flatMap_cons, List.append_assoc, goesOn, ih]
    simp

/-- A written word is read as its letters, up to what stands behind it. -/
theorem readFrom_word (w : Text) :
    readFrom words .between (word w ++ t) = readFrom words (.inWord (letters w)) t := by
  by_cases bare : isBare w = true
  · have isWord : word w = w := if_pos bare
    obtain ⟨notEmpty, plain⟩ : w ≠ [] ∧ ∀ c ∈ w, isPlain c = true := by simpa [isBare] using bare
    obtain ⟨c, rest, rfl⟩ := List.exists_cons_of_ne_nil notEmpty
    obtain ⟨notEnd, notBlank, -⟩ := ordinary_of_isPlain (plain c (by simp))
    rw [isWord, List.cons_append, readFrom_begin words _ notEnd notBlank, ← List.cons_append,
      readFrom_plain words [] t plain]
    simp [letters, bare]
  · have isWord : word w = '\'' :: (w.flatMap escape ++ ['\'']) := if_neg bare
    have opened : readFrom words .between ('\'' :: (w.flatMap escape ++ '\'' :: t)) =
        readFrom words (.inQuotes []) (w.flatMap escape ++ '\'' :: t) := by
      simp [readFrom, isBlank, Place.letters]
    rw [isWord, List.cons_append, List.append_assoc, List.singleton_append, opened,
      readFrom_escape words [] t]
    simp [letters, bare]

/-- A command is read word by word. What comes after it decides what is made of its words. -/
theorem readFrom_command (finish : List Word → Option (List (List Word)))
    (ends : ∀ before last, readFrom before (.inWord last) t = finish (before ++ [last]))
    (w : Text) (more : List Text) :
    readFrom words .between (command (w :: more) ++ t) =
      finish (words ++ (w :: more).map letters) := by
  induction more generalizing words w with
  | nil =>
    have single : command [w] = word w := by simp [command, Text.joinWith]
    rw [single, readFrom_word, ends]
    rfl
  | cons next more ih =>
    have split : command (w :: next :: more) = word w ++ ' ' :: command (next :: more) := by
      simp [command, Text.joinWith, List.intercalate_cons_cons]
    have blank (rest : Text) : readFrom words (.inWord (letters w)) (' ' :: rest) =
        readFrom (words ++ [letters w]) .between rest := by
      simp [readFrom, isBlank, Place.ended]
    rw [split, List.append_assoc, List.cons_append, readFrom_word, blank, ih]
    simp

/-- The commands that are printed line by line are those that are read. -/
theorem read_lines {commands : List (List Text)} (notEmpty : ∀ args ∈ commands, args ≠ []) :
    read (commands.flatMap fun args => command args ++ ['\n']) =
      some (commands.map (·.map letters)) := by
  induction commands with
  | nil => rfl
  | cons args commands ih =>
    obtain ⟨w, more, rfl⟩ := List.exists_cons_of_ne_nil (notEmpty args (by simp))
    have later := ih fun other member => notEmpty other (by simp [member])
    rw [read] at later ⊢
    let rest := commands.flatMap fun args => command args ++ ['\n']
    have ends (before : List Word) (last : Word) :
        readFrom before (.inWord last) ('\n' :: rest) =
          (readFrom [] .between rest).map (asCommand (before ++ [last]) ++ ·) := by
      simp [readFrom, Place.ended]
    have whole := readFrom_command [] ('\n' :: rest)
      (fun found => (readFrom [] .between rest).map (asCommand found ++ ·)) ends w more
    rw [List.flatMap_cons, List.append_assoc, List.singleton_append, whole, later]
    simp [asCommand]

end Words

namespace Quoted

/-- The word reads `NAME=value` and is written without quotes. -/
def IsAssigning (w : Text) : Prop :=
  (∀ c ∈ w, isPlain c = true) ∧
    ∃ name value, w = name ++ '=' :: value ∧ Simple.isName name = true

/-- A name holds no equals sign. -/
theorem equals_notMem_of_isName {name : Text} (isName : Simple.isName name = true) :
    '=' ∉ name := by
  intro member
  cases name with
  | nil => cases member
  | cons c rest =>
    simp only [Simple.isName, Bool.and_eq_true, List.all_eq_true] at isName
    rcases List.mem_cons.1 member with rfl | later
    · exact absurd isName.1 (by decide)
    · exact absurd (isName.2 '=' later) (by decide)

/-- A written word is an assignment only where its name stands bare. -/
theorem isAssignment_letters (w : Text) :
    Simple.isAssignment (letters w) = true ↔ IsAssigning w := by
  by_cases bare : isBare w = true
  · obtain ⟨-, plain⟩ : w ≠ [] ∧ ∀ c ∈ w, isPlain c = true := by simpa [isBare] using bare
    have shown : Word.text ((letters w).takeWhile (!·.quoted)) = w := by
      rw [List.takeWhile_eq_self_iff.2 (by simp [letters, bare]), text_letters]
    rw [Simple.isAssignment, shown, IsAssigning, and_iff_right plain]
    constructor
    · intro assigns
      split at assigns
      · rename_i name value found
        exact ⟨name, value, (Text.cutAt?_eq_some_iff.1 found).1, assigns⟩
      · cases assigns
    · rintro ⟨name, value, isWord, isName⟩
      rw [Text.cutAt?_eq_some_iff.2 ⟨isWord, equals_notMem_of_isName isName⟩]
      exact isName
  · have shown : (letters w).takeWhile (!·.quoted) = [] := by
      cases w <;> simp [letters, bare]
    rw [Simple.isAssignment, shown]
    refine iff_of_false (by simp [Word.text, Text.cutAt?]) ?_
    rintro ⟨plain, name, value, rfl, -⟩
    simp [isBare, List.all_eq_true.2 plain] at bare

/-- Written words are a simple command without assignments unless the first of them is taken for
one; then the words behind it are the command. -/
theorem ofWords_letters (first second : Text) (rest : List Text) (runs : ¬ IsAssigning second) :
    (Simple.ofWords ((first :: second :: rest).map letters) = ⟨[], first :: second :: rest⟩ ↔
        ¬ IsAssigning first) ∧
      (IsAssigning first → Simple.ofWords ((first :: second :: rest).map letters) =
        ⟨[letters first], second :: rest⟩) := by
  have noAssignment {w : Text} (other : ¬ IsAssigning w) :
      Simple.isAssignment (letters w) = false := by
    rwa [Bool.eq_false_iff, ne_eq, isAssignment_letters]
  have taken (assigns : IsAssigning first) :
      Simple.ofWords ((first :: second :: rest).map letters) =
        ⟨[letters first], second :: rest⟩ := by
    simp [Simple.ofWords, (isAssignment_letters first).2 assigns, noAssignment runs,
      Function.comp_def]
  refine ⟨⟨fun whole assigns => ?_, fun command => ?_⟩, taken⟩
  · rw [taken assigns] at whole
    simp at whole
  · simp [Simple.ofWords, noAssignment command, Function.comp_def]

end Quoted

/-- What is read of a printed call. The words are those of the call, the formatter first, and they
are that simple command, unless the formatter is assigned and the others are the command. -/
structure IsPasted (binary : Text) (words : List Word) (call : Invocation) : Prop where
  read : Words.read (Quoted.command call.args ++ ['\n']) = some [words]
  texts : words.map Word.text = call.args
  first : call.args.head? = some binary
  carriedOut_iff : Simple.ofWords words = ⟨[], call.args⟩ ↔ ¬ Quoted.IsAssigning binary
  assigned : Quoted.IsAssigning binary →
    (Simple.ofWords words).assignments.map Word.text = [binary] ∧
      (Simple.ofWords words).args = call.args.tail

open Quoted in
theorem isPasted_arguments (binary path : Text) (lines : List Int) :
    IsPasted binary ((arguments binary path lines).map letters)
      { args := arguments binary path lines } := by
  have isCommand : arguments binary path lines =
      binary :: "-i".toList :: (lines.map lineOption ++ [path]) := rfl
  have inPlace : ¬ IsAssigning "-i".toList := by
    rintro ⟨-, name, value, isWord, -⟩
    have noEquals : '=' ∉ "-i".toList := by decide
    exact noEquals (by simp [isWord])
  rw [isCommand]
  obtain ⟨carriedOut, assigned⟩ :=
    ofWords_letters binary "-i".toList (lines.map lineOption ++ [path]) inPlace
  have alone := Words.read_lines (List.forall_mem_singleton.2 (List.cons_ne_nil binary
    ("-i".toList :: (lines.map lineOption ++ [path]))))
  exact
    { read := by simpa only [List.flatMap_singleton, List.map_singleton] using alone
      texts := by simp [Function.comp_def]
      first := rfl
      carriedOut_iff := carriedOut
      assigned := fun assigns => by
        rw [assigned assigns]
        exact ⟨by simp, rfl⟩ }

end Command

namespace Run

open Command

variable {σ : Type}

/-- A quiet dry run plans to print the commands that are planned in earnest, and nothing else. -/
theorem plan_dryRun_quiet (coloured : Bool) (binary : Text) (request : Request) :
    plan coloured false (Formatter.dryRun binary) request =
      (Event.calls (plan coloured false (Formatter.inPlace coloured false binary) request)).map
        fun call => (.line .stdout (Quoted.command call.args) : Event Invocation) := by
  rw [← filter_printsCommand_plan]
  refine (List.filter_eq_self.2 fun e planned => ?_).symm
  obtain ⟨g, -, ofGroup⟩ := List.mem_flatMap.1 planned
  split at ofGroup
  · rename_i supported
    rw [List.mem_singleton.1 ofGroup]
    exact Event.printsCommand_command coloured binary g.lines supported
  · simp at ofGroup

/-- A quiet dry run prints the commands of the calls that the run in earnest makes if they all
succeed. -/
theorem events_dryRun_quiet (coloured : Bool) (binary : Text) (runner : Runner Invocation σ) (s : σ)
    {input : Source} {lines : List Text} {found : List MatchLine}
    (read : input.readLines = .ok lines) (understood : lines.mapM MatchLine.parse = .ok found) :
    (run coloured ⟨false, binary, true⟩ runner input s).events =
      (Event.calls (run coloured ⟨false, binary, false⟩ Runner.succeeding input ()).events).map
        fun call => .line .stdout (Quoted.command call.args) := by
  have printed := perform_plan_of_dryRun (o := ⟨false, binary, true⟩) rfl coloured
    (Request.grouped found) runner s
  rw [run_eq_perform read understood, printed, run_succeeding read understood]
  exact plan_dryRun_quiet coloured binary (Request.grouped found)

/-- **A printed command is a simple command of the same words, unless its formatter reads as an
assignment.** A quiet dry run prints one line for each call of the run in earnest that has no
failure, one for each supported file in order; a run in earnest by any other runner makes the first
of these calls. From all of the output, and from each line alone, a shell reads exactly the words of
the call, the formatter first. By the grammar of a simple command, which is assignments and then a
command word, they are that command with no assignment in front exactly when the formatter does not
read `NAME=value` in plain characters; where it does, the formatter is assigned and the words behind
it are the command. The grammar is all that is meant: a formatter with the name of a reserved word,
a builtin or an alias is a command word like any other here. -/
theorem dryRun_pasted_iff (coloured : Bool) (binary : Text) (runner : Runner Invocation σ) (s : σ)
    {input : Source} {lines : List Text} {found : List MatchLine}
    (read : input.readLines = .ok lines) (understood : lines.mapM MatchLine.parse = .ok found) :
    let dry := run coloured ⟨false, binary, true⟩ runner input s
    let calls := Event.calls (run coloured ⟨false, binary, false⟩ Runner.succeeding input ()).events
    calls = commands ⟨false, binary, false⟩ found ∧
      dry.events = (calls.map fun call => .line .stdout (Quoted.command call.args)) ∧
      (∀ {τ : Type} (other : Runner Invocation τ) (t : τ),
        Event.calls (run coloured ⟨false, binary, false⟩ other input t).events <+: calls) ∧
      ∃ asRead, Words.read (Event.writtenTo .stdout dry.events) = some asRead ∧
        List.Forall₂ (IsPasted binary) asRead calls := by
  intro dry calls
  have printed : dry.events = calls.map fun call => .line .stdout (Quoted.command call.args) :=
    events_dryRun_quiet coloured binary runner s read understood
  have isCalls : calls = commands ⟨false, binary, false⟩ found := by
    rw [← calls_plan_inPlace (o := ⟨false, binary, false⟩) rfl, ← run_succeeding read understood]
  have output : Event.writtenTo .stdout dry.events =
      (calls.map Invocation.args).flatMap fun args => Quoted.command args ++ ['\n'] := by
    have asTexts : dry.events =
        (calls.map fun call => Quoted.command call.args).map (Event.line .stdout) := by
      rw [printed, List.map_map]
      rfl
    rw [asTexts, Event.writtenTo_map_line, List.flatMap_map, List.flatMap_map]
  refine ⟨isCalls, printed, fun other t => ?_,
    (calls.map Invocation.args).map (·.map Quoted.letters), ?_, ?_⟩
  · have made := calls_run_prefix read understood coloured ⟨false, binary, false⟩ other t
    rwa [← run_succeeding read understood] at made
  · rw [output]
    refine Words.read_lines fun args member => ?_
    obtain ⟨call, isCall, rfl⟩ := List.mem_map.1 member
    rw [isCalls] at isCall
    obtain ⟨path, -, rfl⟩ := List.mem_map.1 isCall
    exact List.cons_ne_nil binary _
  · rw [List.map_map, List.forall₂_map_left_iff, List.forall₂_same]
    intro call member
    rw [isCalls] at member
    obtain ⟨path, -, rfl⟩ := List.mem_map.1 member
    exact isPasted_arguments ..

/-- A formatter with an equals sign and a quote in its name, and a file with a blank in its path. -/
theorem dryRun_pasted_iff_quoted :
    let input : Source := ⟨["a b.c:1:x\nc.h:2:y\n", "a b.c:3:z"].map (.text ·.toList), none⟩
    let binary := "A=it's".toList
    let dry := run false ⟨false, binary, true⟩ Runner.scripted input []
    let call (words : List String) : Invocation := { args := words.map String.toList }
    let first := call ["A=it's", "-i", "--lines=1:1", "--lines=3:3", "a b.c"]
    let second := call ["A=it's", "-i", "--lines=2:2", "c.h"]
    Event.writtenTo .stdout dry.events =
      "'A=it'\\''s' -i --lines=1:1 --lines=3:3 'a b.c'\n'A=it'\\''s' -i --lines=2:2 c.h\n".toList ∧
      ∃ words more, Words.read (Event.writtenTo .stdout dry.events) = some [words, more] ∧
        Simple.ofWords words = ⟨[], first.args⟩ ∧ Simple.ofWords more = ⟨[], second.args⟩ := by
  intro input binary dry call first second
  have read : input.readLines = .ok (["a b.c:1:x", "c.h:2:y", "a b.c:3:z"].map String.toList) := rfl
  have understood : (["a b.c:1:x", "c.h:2:y", "a b.c:3:z"].map String.toList).mapM MatchLine.parse =
      .ok [⟨"a b.c".toList, 1⟩, ⟨"c.h".toList, 2⟩, ⟨"a b.c".toList, 3⟩] := rfl
  have isCalls : Event.calls (run false ⟨false, binary, false⟩ Runner.succeeding input ()).events =
      [first, second] := rfl
  have runs : ¬ Quoted.IsAssigning binary := fun assigns =>
    absurd (assigns.1 '\'' (by decide)) (by decide)
  obtain ⟨-, -, -, asRead, shown, pasted⟩ :=
    dryRun_pasted_iff false binary Runner.scripted [] read understood
  rw [isCalls] at pasted
  obtain ⟨words, _, atFirst, rest, rfl⟩ := List.forall₂_cons_right_iff.1 pasted
  obtain ⟨more, _, atSecond, nothingMore, rfl⟩ := List.forall₂_cons_right_iff.1 rest
  obtain rfl := List.forall₂_nil_right_iff.1 nothingMore
  refine ⟨?_, words, more, shown, atFirst.carriedOut_iff.2 runs, atSecond.carriedOut_iff.2 runs⟩
  decide +kernel

/-- The formatter is assigned to a variable, and the option is the command word in its place. -/
theorem formatter_read_as_assignment :
    let input : Source := ⟨[.text "a.c:1:x\n".toList], none⟩
    let dry := run false ⟨false, "A=b".toList, true⟩ Runner.scripted input []
    let calls :=
      Event.calls (run false ⟨false, "A=b".toList, false⟩ Runner.scripted input []).events
    let args := ["A=b", "-i", "--lines=1:1", "a.c"].map String.toList
    calls = [{ args }] ∧ dry.events = [.line .stdout "A=b -i --lines=1:1 a.c".toList] ∧
      ∃ words, Words.read (Event.writtenTo .stdout dry.events) = some [words] ∧
        words.map Word.text = args ∧ (Simple.ofWords words).assignments.length = 1 ∧
        (Simple.ofWords words).args = ["-i", "--lines=1:1", "a.c"].map String.toList ∧
        Simple.ofWords words ≠ ⟨[], args⟩ := by
  intro input dry calls args
  exact ⟨rfl, rfl, args.map Quoted.letters, by decide, by decide, by decide, by decide, by decide⟩

end Run
end MatchedLines
