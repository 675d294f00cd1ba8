import MatchedLines.Host.Octets
/-!
Signals by number and by name, what they do to a process that has not asked for anything else, and
the words in which a shell reports that one has ended a command.
-/

namespace MatchedLines.Host.Signal

/-- The names of the signals from 1 on. One of them is known by its number only. -/
def names : List String :=
  ["HUP", "INT", "QUIT", "ILL", "TRAP", "ABRT", "BUS", "FPE", "KILL", "USR1", "SEGV", "USR2",
    "PIPE", "ALRM", "TERM", "16", "CHLD", "CONT", "STOP", "TSTP", "TTIN", "TTOU", "URG",
    "XCPU", "XFSZ", "VTALRM", "PROF", "WINCH", "IO", "PWR", "SYS", "32", "33"]

/-- What a shell reports, in the order of the names. -/
def reports : List String :=
  ["Hangup", "Interrupt", "Quit", "Illegal instruction", "Trace/breakpoint trap", "Aborted",
    "Bus error", "Floating point exception", "Killed", "User defined signal 1",
    "Segmentation fault", "User defined signal 2", "Broken pipe", "Alarm clock", "Terminated",
    "Stack fault", "Child exited", "Continued", "Stopped (signal)", "Stopped",
    "Stopped (tty input)", "Stopped (tty output)", "Urgent I/O condition",
    "CPU time limit exceeded", "File size limit exceeded", "Virtual timer expired",
    "Profiling timer expired", "Window changed", "I/O possible", "Power failure",
    "Bad system call"]

/-- One more than the highest signal. -/
def limit : Nat := 65

/-- The name of a signal. -/
def nameOf (signal : Nat) : Octets :=
  if signal = 0 then "EXIT".toList
  else match names[signal - 1]? with
    | some name => name.toList
    | none =>
      if signal = 34 then "RTMIN".toList
      else if 34 < signal && signal < 50 then "RTMIN+".toList ++ Nat.toDigits 10 (signal - 34)
      else if 50 ≤ signal && signal < 64 then "RTMAX-".toList ++ Nat.toDigits 10 (64 - signal)
      else if signal = 64 then "RTMAX".toList
      else Nat.toDigits 10 signal

/-- The signal with this number or name, in upper or lower case. The end of a shell counts as
signal 0. -/
def ofName (o : Octets) : Option Nat :=
  match Octets.number? o with
  | some n => if n < limit then some n else none
  | none => (List.range limit).find? fun n => nameOf n = o.map Char.toUpper

/-- Signals that do nothing unless a process asks for them: news of a child, of being continued,
of urgent data and of a changed window, and those that only hold a process up. -/
def isHarmless (signal : Nat) : Bool := [0, 17, 18, 19, 20, 21, 22, 23, 28].contains signal

/-- The signals that no process can turn away. -/
def isCertain (signal : Nat) : Bool := signal = 9 || signal = 19

/-- The report on a command that was ended by a signal. An interrupt and a closed pipe are not
reported. -/
def report (signal : Nat) : Octets :=
  if signal = 2 || signal = 13 then []
  else match reports[signal - 1]? with
    | some text => text.toList ++ ['\n']
    | none =>
      if 34 ≤ signal then "Real-time signal ".toList ++ Nat.toDigits 10 (signal - 34) ++ ['\n']
      else "Unknown signal ".toList ++ Nat.toDigits 10 signal ++ ['\n']

end MatchedLines.Host.Signal
