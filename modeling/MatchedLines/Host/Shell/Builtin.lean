import MatchedLines.Host.Shell.Lookup
/-!
The commands of a shell that look at or change what it knows: its variables, arguments, settings,
aliases and limits, and the directory it works in.
-/

namespace MatchedLines.Host.Shell.Builtin

/-! ### Variables -/

/-- The variables that have some property, as they could be typed. -/
def listVariables (front : Octets) (p : Variable → Bool) : Sh Unit := do
  let found := ((← get).bindings.filter p).map fun v => (v.name, v.value)
  let sorted := found.mergeSort fun a b => Octets.le a.1 b.1
  for (name, value) in sorted do
    let value := match value with
      | some o => '=' :: Sh.quoted o
      | none => []
    Sh.print (front ++ name ++ value ++ ['\n'])

/-- Marks variables as exported or read-only. -/
def mark (command : Octets) (readOnly : Bool) (args : List Octets) : Sh Nat := do
  let (options, args) ← Sh.takeOptions "p" args
  if options.isEmpty && !args.isEmpty then
    for o in args do
      let (name, value) := Sh.splitPair o
      match value, ← Sh.binding? name with
      | none, some v =>
        Sh.putVariable
          { v with exported := v.exported || !readOnly, readOnly := v.readOnly || readOnly }
      | value, _ => Sh.setChecked name value (!readOnly) readOnly
  else
    listVariables (command ++ [' ']) fun v => if readOnly then v.readOnly else v.exported
  pure 0

def makeLocals (args : List Octets) : Sh Nat := do
  if (← get).locals.isEmpty then Sh.fail "not in a function".toList
  for o in args do Sh.makeLocal o false
  pure 0

def unset (args : List Octets) : Sh Nat := do
  let (options, names) ← Sh.takeOptions "vf" args
  for name in names do
    if (options.getLast?.map Prod.fst) = some 'f' then
      modify fun s => { s with functions := s.functions.filter fun (f, _) => f ≠ name }
    else Sh.setChecked name none false false
  pure 0

/-! ### Arguments and settings -/

def setArguments (args : List Octets) : Sh Unit := modify fun s =>
  { s with arguments := args, optionIndex := 1, optionOffset := none }

/-- Switches a setting by its letter. -/
def setLetter (letter : Char) (value : Bool) : Sh Unit := do
  match Setting.ofLetter letter with
  | none => Sh.fail ("Illegal option -".toList ++ [letter])
  | some x =>
    modify fun s => { s with settings := Setting.switch s.settings x value }
    if value && x = .vi then
      modify fun s => { s with settings := Setting.switch s.settings .emacs false }
    if value && x = .emacs then
      modify fun s => { s with settings := Setting.switch s.settings .vi false }

/-- Switches a setting by its name. -/
def setNamed (name : Octets) (value : Bool) : Sh Unit := do
  match Setting.ofName name with
  | none => Sh.fail ("Illegal option -o ".toList ++ name)
  | some x => modify fun s => { s with settings := Setting.switch s.settings x value }

/-- The settings as a table, or as they could be typed. -/
def listSettings (asTable : Bool) : Sh Unit := do
  let on := (← get).settings
  if asTable then Sh.print "Current option settings\n".toList
  for (x, _, name) in Setting.table do
    let isOn := on.contains x
    if asTable then
      Sh.print (name.toList ++ List.replicate (16 - name.length) ' '
        ++ (if isOn then "on\n" else "off\n").toList)
    else Sh.print ((if isOn then "set -o " else "set +o ").toList ++ name.toList ++ ['\n'])

/-- Takes settings from the front of the arguments and gives what follows them; whether arguments
were asked for even if there are none. A script to carry out is given back too, if the shell is
being started. -/
def takeSettings (starting : Bool) : Nat → Bool → List Octets → Sh (Bool × Bool × List Octets)
  | 0, script, args => pure (script, false, args)
  | n + 1, script, args => do
    match args with
    | [] => pure (script, false, [])
    | o :: rest =>
      match o with
      | ['-'] =>
        if !starting then
          modify fun s =>
            { s with settings := s.settings.filter fun x => x ≠ .xtrace && x ≠ .verbose }
        pure (script, false, rest)
      | ['-', '-'] => pure (script, true, rest)
      | sign :: letters =>
        if sign = '-' || sign = '+' then
          let (script, rest) ← takeLetters starting (sign = '-') script letters rest
          takeSettings starting n script rest
        else pure (script, false, o :: rest)
      | [] => pure (script, false, o :: rest)
where
  takeLetters (starting value script : Bool) : Octets → List Octets → Sh (Bool × List Octets)
    | [], rest => pure (script, rest)
    | c :: letters, rest => do
      if c = 'c' && starting then takeLetters starting value true letters rest
      else if c = 'l' && starting then takeLetters starting value script letters rest
      else if c = 'o' then
        match rest with
        | [] =>
          listSettings value
          takeLetters starting value script letters []
        | name :: rest =>
          setNamed name value
          takeLetters starting value script letters rest
      else
        setLetter c value
        takeLetters starting value script letters rest

def set (args : List Octets) : Sh Nat := do
  if args.isEmpty then listVariables [] fun v => v.value.isSome
  else
    let (_, always, rest) ← takeSettings false (args.length + 1) false args
    if (← Sh.isOn .monitor) then
      Sh.warn "can't access tty; job control turned off".toList
      modify fun s => { s with settings := Setting.switch s.settings .monitor false }
    if always || !rest.isEmpty then setArguments rest
  pure 0

def shift (args : List Octets) : Sh Nat := do
  let n ← match args with
    | o :: _ => Sh.smallNumber o
    | [] => pure 1
  let s ← get
  if n > s.arguments.length then Sh.fail "can't shift that many".toList
  setArguments (s.arguments.drop n)
  pure 0

/-- Looks at the next option among arguments. -/
def getopts (args : List Octets) : Sh Nat := do
  match (← Sh.takeOptions "" args).2 with
  | known :: name :: rest =>
    let s ← get
    let words := if rest.isEmpty then s.arguments else rest
    let (index, offset) :=
      if s.optionIndex > words.length + 1 then (1, none) else (s.optionIndex, s.optionOffset)
    let quiet := known.head? = some ':'
    let setPlace (index : Nat) (offset : Option Nat) : Sh Unit := do
      let name := "OPTIND".toList
      let old := (← Sh.binding? name).getD ⟨name, none, false, false⟩
      Sh.putVariable { old with value := some (Nat.toDigits 10 index) }
      modify fun s => { s with optionIndex := index, optionOffset := offset }
    let finish (index : Nat) (offset : Option Nat) (letter : Char) (status : Nat) : Sh Nat := do
      setPlace index offset
      Sh.assign name [letter]
      pure status
    let argument (value : Option Octets) : Sh Unit :=
      Sh.setVariable "OPTARG".toList value false false
    let word := words[index - 2]?.getD []
    let current : Option (Nat × Octets) :=
      match offset with
      | some n => if index > 1 && n < word.length then some (index, word.drop n) else none
      | none => none
    let start : Option (Option (Nat × Octets)) :=
      match current with
      | some place => some (some place)
      | none =>
        match words[index - 1]? with
        | some ('-' :: c :: more) =>
          if c = '-' && more.isEmpty then some none else some (some (index + 1, c :: more))
        | _ => none
    match start with
    | none => finish index none '?' 1
    | some none => finish (index + 1) none '?' 1
    | some (some (index, [])) => finish index none '?' 1
    | some (some (index, c :: more)) =>
      let here := words[index - 2]?.getD []
      let offset := if more.isEmpty then some here.length else some (here.length - more.length)
      let after := (known.dropWhile (· ≠ c)).drop 1
      if c = ':' || !known.contains c then
        if quiet then argument (some [c])
        else
          Sh.report ("Illegal option -".toList ++ [c, '\n'])
          argument none
        finish index offset '?' 0
      else if after.head? = some ':' then
        if more.isEmpty then
          match words[index - 1]? with
          | none =>
            if quiet then
              argument (some [c])
              finish index none ':' 0
            else
              Sh.report ("No arg for -".toList ++ c :: " option\n".toList)
              argument none
              finish index none '?' 0
          | some value =>
            argument (some value)
            finish (index + 1) none c 0
        else
          argument (some more)
          finish index none c 0
      else
        argument (some [])
        finish index offset c 0
  | _ => Sh.fail "Usage: getopts optstring var [arg...]".toList

/-! ### Reading -/

/-- What was read: characters, those among them that a backslash keeps from being separators, and
places where a backslash joins two lines. -/
inductive Read where
  | plain (c : Char)
  | kept (c : Char)
  | joint

/-- How much of an input one line takes, given how much of it has been passed. -/
def lineLength (raw : Bool) : Nat → Octets → Nat
  | n, [] => n
  | n, '\\' :: c :: o =>
    if raw then if c = '\n' then n + 2 else lineLength raw (n + 2) o else lineLength raw (n + 2) o
  | n, '\n' :: _ => n + 1
  | n, _ :: o => lineLength raw (n + 1) o

/-- What stands in a line before its end. -/
def readCharacters (raw : Bool) : Octets → List Read
  | [] => []
  | '\\' :: c :: o =>
    if raw then
      if c = '\n' then [.plain '\\'] else .plain '\\' :: readCharacters raw (c :: o)
    else if c = '\n' then .joint :: readCharacters raw o
    else .kept c :: readCharacters raw o
  | '\\' :: [] => if raw then [.plain '\\'] else []
  | '\n' :: _ => []
  | c :: o => if c = '\x00' then readCharacters raw o else .plain c :: readCharacters raw o

/-- The state of cutting a line: the fields so far and the current one, both last first. -/
structure LineCut where
  fields : List Octets := []
  current : Octets := []
  /-- How many fields may still be begun. Once there are none, all is kept in the current one. -/
  more : Nat
  /-- The last separator was a blank, and others may follow it. -/
  blank : Bool := false
  /-- How much of the last field stands before separators at its end. -/
  keep : Option Nat := none

namespace LineCut

/-- One character that may be a separator. -/
def step (separators : Octets) (s : LineCut) (c : Char) : LineCut :=
  let isSeparator := separators.contains c
  let isBlank := isSeparator && (c = ' ' || c = '\t' || c = '\n')
  let pushed := c :: s.current
  if s.more = 0 then
    if isBlank then { s with keep := some (s.keep.getD s.current.length), current := pushed }
    else
      { s with
        keep := if isSeparator && s.blank then s.keep else none
        blank := false
        current := pushed }
  else if s.blank then
    if isBlank then { s with current := [] }
    else { s with current := if isSeparator then [] else [c], blank := false }
  else if !isSeparator then { s with current := pushed }
  else if s.current.isEmpty && isBlank then s
  else if s.more = 1 then
    { s with more := 0, keep := some s.current.length, blank := isBlank, current := pushed }
  else
    { s with
      fields := s.current.reverse :: s.fields, current := [], more := s.more - 1, blank := isBlank }

def read (separators : Octets) (s : LineCut) : Read → LineCut
  | .plain c => s.step separators c
  | .kept c => { s with current := c :: s.current, blank := false }
  | .joint => { s with blank := false }

/-- The fields of a line, at most so many. -/
def fieldsOf (separators : Octets) (count : Nat) (line : List Read) : List Octets :=
  let s := line.foldl (read separators) { more := count }
  let last := s.current.reverse
  let last := match s.keep with
    | some n => last.take n
    | none => last
  (if last.isEmpty then s.fields else last :: s.fields).reverse

end LineCut

def read (args : List Octets) : Sh Nat := do
  let (options, names) ← Sh.takeOptions "p:r" args
  if names.isEmpty then Sh.fail "arg count".toList
  let raw := options.any fun (c, _) => c = 'r'
  let line ← match (← get).process.channel? 0 with
    | none => pure []
    | some channel =>
      match ← Sh.act (Act.take channel fun o => lineLength raw 0 o) with
      | .ok o => pure o
      | .error _ => pure []
  let ended := line.getLast? = some '\n'
  let fields := LineCut.fieldsOf (← Sh.separators) names.length (readCharacters raw line)
  for (name, i) in names.zipIdx do Sh.assign name (fields[i]?.getD [])
  pure (if ended then 0 else 1)

/-! ### Aliases -/

def makeAliases (args : List Octets) : Sh Nat := do
  if args.isEmpty then
    for (name, value) in Sh.inOrder 39 (← get).aliases do
      Sh.print (Lookup.aliasText name value)
    pure 0
  else
    let mut status := 0
    for o in args do
      let front := (o.drop 1).takeWhile (· ≠ '=')
      if front.length + 1 < o.length then
        let name := o.take (front.length + 1)
        let value := o.drop (front.length + 2)
        modify fun s =>
          let isKnown := (s.aliases.lookup name).isSome
          { s with aliases :=
            if isKnown then s.aliases.map fun (n, v) => if n = name then (n, value) else (n, v)
            else s.aliases ++ [(name, value)] }
      else match (← get).aliases.lookup o with
        | some value => Sh.print (Lookup.aliasText o value)
        | none =>
          Sh.report ("alias: ".toList ++ o ++ " not found\n".toList)
          status := 1
    pure status

def removeAliases (args : List Octets) : Sh Nat := do
  let (options, names) ← Sh.takeOptions "a" args
  if !options.isEmpty then
    modify fun s => { s with aliases := [] }
    pure 0
  else
    let mut status := 0
    for name in names do
      if ((← get).aliases.lookup name).isSome then
        modify fun s => { s with aliases := s.aliases.filter fun (n, _) => n ≠ name }
      else
        Sh.report ("unalias: ".toList ++ name ++ " not found\n".toList)
        status := 1
    pure status

/-! ### Permissions and limits -/

/-- The places of the bits that letters for users stand for. -/
def whoBits (c : Char) : Option Nat :=
  match c with
  | 'a' => some 0o111
  | 'u' => some 0o100
  | 'g' => some 0o010
  | 'o' => some 0o001
  | _ => none

/-- The bits of one letter for permissions, out of those that hold. -/
def permissionBits (mode : Nat) (c : Char) : Option Nat :=
  match c with
  | 'r' => some 4
  | 'w' => some 2
  | 'x' => some 1
  | 'X' => some (if mode &&& 0o111 = 0 then 0 else 1)
  | 's' => some 0
  | 'u' => some (mode / 64 % 8)
  | 'g' => some (mode / 8 % 8)
  | 'o' => some (mode % 8)
  | _ => none

/-- Carries out operations on a mode: a sign and letters, as often as they come. -/
def changeMode (who : Nat) : Nat → Nat → Octets → Option (Nat × Octets)
  | 0, mode, o => some (mode, o)
  | n + 1, mode, o =>
    match o with
    | sign :: rest =>
      if sign = '=' || sign = '+' || sign = '-' then
        let letters := rest.takeWhile fun c => (permissionBits mode c).isSome
        let bits := letters.foldl (fun b c => b ||| (permissionBits mode c).getD 0) 0
        let mask := who * bits
        let mode :=
          if sign = '=' then (mode &&& (0o777 - who * 7)) ||| mask
          else if sign = '+' then mode ||| mask
          else mode - (mode &&& mask)
        changeMode who n mode (rest.drop letters.length)
      else some (mode, o)
    | [] => some (mode, [])

/-- The mode that a text of signs and letters makes of another one. -/
def symbolicMode : Nat → Nat → Octets → Option Nat
  | 0, _, _ => none
  | n + 1, mode, o =>
    let users := o.takeWhile fun c => (whoBits c).isSome
    let who := users.foldl (fun b c => b ||| (whoBits c).getD 0) 0
    let who := if who = 0 then 0o111 else who
    let body := o.drop users.length
    match body with
    | sign :: _ =>
      if sign = '=' || sign = '+' || sign = '-' then
        match changeMode who body.length mode body with
        | some (mode, []) => some mode
        | some (mode, [',']) => some mode
        | some (mode, ',' :: rest) => symbolicMode n mode rest
        | _ => none
      else none
    | [] => none

/-- A mask of four octal digits. -/
def maskText (mask : Nat) : Octets :=
  let digits := Nat.toDigits 8 mask
  List.replicate (4 - digits.length) '0' ++ digits

/-- What a mask leaves, in letters. -/
def maskLetters (mask : Nat) : Octets :=
  let mode := 0o777 - mask
  let part (name : Char) (bits : Nat) : Octets :=
    name :: '=' :: ((if bits / 4 % 2 = 1 then ['r'] else [])
      ++ (if bits / 2 % 2 = 1 then ['w'] else [])
      ++ (if bits % 2 = 1 then ['x'] else []))
  [','].intercalate [part 'u' (mode / 64), part 'g' (mode / 8 % 8), part 'o' (mode % 8)]

def umask (args : List Octets) : Sh Nat := do
  let (options, args) ← Sh.takeOptions "S" args
  let mask := (← get).process.umask
  match args with
  | [] =>
    Sh.print ((if options.isEmpty then maskText mask else maskLetters mask) ++ ['\n'])
    pure 0
  | o :: _ =>
    let new ←
      if (o.head?.any Char.isDigit) then
        if o.all fun c => '0' ≤ c && c ≤ '7' then pure (Nat.ofDigitChars 8 o 0 % 512)
        else Sh.illegalNumber o
      else match symbolicMode (o.length + 1) (0o777 - mask) o with
        | some mode => pure (0o777 - mode)
        | none => Sh.fail ("Illegal mode: ".toList ++ o)
    modify fun s => { s with process := { s.process with umask := new } }
    pure 0

/-- The limits of a process with their letters, and what they are at first. -/
def limitTable : List (Char × String × Option Nat) :=
  [('t', "time(seconds)", none), ('f', "file(blocks)", none), ('d', "data(kbytes)", none),
    ('s', "stack(kbytes)", some 8192), ('c', "coredump(blocks)", some 0),
    ('m', "memory(kbytes)", none), ('l', "locked memory(kbytes)", some 8192),
    ('p', "process", some 128604), ('n', "nofiles", some 20000), ('v', "vmemory(kbytes)", none),
    ('w', "locks", none), ('r', "rtprio", some 0)]

def limitText : Option Nat → Octets
  | some n => Nat.toDigits 10 n
  | none => "unlimited".toList

def ulimit (args : List Octets) : Sh Nat := do
  let (options, args) ← Sh.takeOptions "HSatfdscmlpnvwr" args
  let letters := (options.map Prod.fst).filter fun c => c ≠ 'H' && c ≠ 'S'
  let s ← get
  let value (c : Char) (first : Option Nat) : Option Nat := (s.limits.lookup c).getD first
  let what := (letters.filter (· ≠ 'a')).getLast?.getD 'f'
  match args with
  | _ :: _ :: _ => Sh.fail "too many arguments".toList
  | [o] =>
    if letters.contains 'a' then Sh.fail "too many arguments".toList
    let new ←
      if o = "unlimited".toList then pure none
      else if o.all Char.isDigit then pure (some (Nat.ofDigitChars 10 o 0))
      else Sh.fail "bad number".toList
    modify fun s => { s with limits := (what, new) :: s.limits }
    pure 0
  | [] =>
    for (c, label, first) in limitTable do
      if letters.contains 'a' then
        Sh.print (label.toList ++ List.replicate (20 - label.length) ' ' ++ ' ' ::
          limitText (value c first) ++ ['\n'])
      else if c = what then Sh.print (limitText (value c first) ++ ['\n'])
    pure 0

/-! ### The directory -/

/-- A directory as a path without dots, given the one it is seen from. -/
def normalized (from_ : Octets) (path : Octets) : Octets :=
  let isDouble := match path with
    | '/' :: '/' :: '/' :: _ => false
    | '/' :: '/' :: _ => true
    | '/' :: _ => false
    | _ => match from_ with
      | '/' :: '/' :: _ => true
      | _ => false
  let names := ((if path.head? = some '/' then [] else from_) ++ '/' :: path).splitOn '/'
  let kept := names.foldl (fun (kept : List Octets) name =>
    if name.isEmpty || name = ['.'] then kept
    else if name = ['.', '.'] then kept.drop 1
    else name :: kept) []
  let root : Octets := if isDouble then ['/', '/'] else ['/']
  root ++ ['/'].intercalate kept.reverse

/-- Goes to a directory, seen through links or not. Says whether that was possible. -/
def enter (physical : Bool) (path : Octets) : Sh Bool := do
  let s ← get
  let f ← Sh.act Act.files
  let target := if physical then path else normalized s.directory path
  match f.resolve s.process.cwd target true with
  | .error _ => pure false
  | .ok n =>
    if !f.isDirectory n || !f.allows n .execute then pure false
    else
      let directory := if physical then f.render n else target
      Sh.setVariable "OLDPWD".toList (some s.directory) true false
      modify fun s =>
        { s with
          directory
          process := { s.process with cwd := n }
          hashed := s.hashed.filter fun (_, place) => place.head? = some '/' }
      Sh.setVariable "PWD".toList (some directory) true false
      pure true

/-- Whether a path says by itself from where it goes. -/
def isPlaced (path : Octets) : Bool :=
  match path with
  | '/' :: _ | ['.'] | '.' :: '/' :: _ | ['.', '.'] | '.' :: '.' :: '/' :: _ => true
  | _ => false

def cd (args : List Octets) : Sh Nat := do
  let (options, args) ← Sh.takeOptions "LP" args
  let physical := (options.getLast?.map Prod.fst) = some 'P'
  let (target, shows) ← match args with
    | [] => pure ((← Sh.value? "HOME".toList).getD [], false)
    | ['-'] :: _ => pure ((← Sh.value? "OLDPWD".toList).getD [], true)
    | o :: _ => pure (o, false)
  let failed : Sh Nat := Sh.fail ("can't cd to ".toList ++ target)
  let finish (shows : Bool) : Sh Nat := do
    if shows then Sh.print ((← get).directory ++ ['\n'])
    pure 0
  let path := if target.isEmpty then ['.'] else target
  let places := (← Sh.value? "CDPATH".toList).map fun o => o.splitOn ':'
  let f ← Sh.act Act.files
  let cwd := (← get).process.cwd
  let isThere (place : Octets) : Bool :=
    match f.resolve cwd place true with
    | .ok n => f.isDirectory n
    | .error _ => false
  let found :=
    if isPlaced path then none
    else (places.getD []).find? fun dir =>
      isThere (if dir.isEmpty then path else dir ++ '/' :: path)
  match found with
  | some dir =>
    let place := if dir.isEmpty then path else dir ++ '/' :: path
    if ← enter physical place then finish (shows || !dir.isEmpty) else failed
  | none => if ← enter physical path then finish shows else failed

def pwd (args : List Octets) : Sh Nat := do
  let (options, _) ← Sh.takeOptions "LP" args
  let s ← get
  if (options.getLast?.map Prod.fst) = some 'P' then
    let f ← Sh.act Act.files
    Sh.print (f.render s.process.cwd ++ ['\n'])
  else Sh.print (s.directory ++ ['\n'])
  pure 0

/-! ### Leaving -/

/-- Leaves loops, or goes on with the next round of one. -/
def leave (goesOn : Bool) (args : List Octets) : Sh Nat := do
  let n ← match args with
    | o :: _ =>
      let n ← Sh.smallNumber o
      if n = 0 then Sh.illegalNumber o else pure n
    | [] => pure 1
  let n := min n (← get).loops
  if n > 0 then
    modify fun s => { s with skip := some (if goesOn then .nextRound n else .leaveLoop n) }
  pure 0

def exit (args : List Octets) : Sh Nat := do
  match args with
  | o :: _ =>
    let n ← Sh.smallNumber o
    modify fun s => { s with savedStatus := some n }
  | [] => pure ()
  throw .exit

/-- Leaves a function or a script. -/
def leaveScript (args : List Octets) : Sh Nat := do
  match args with
  | o :: _ =>
    let n ← Sh.smallNumber o
    modify fun s => { s with skip := some (.return true) }
    pure n
  | [] =>
    modify fun s => { s with skip := some (.return false) }
    pure (← get).status

end MatchedLines.Host.Shell.Builtin
