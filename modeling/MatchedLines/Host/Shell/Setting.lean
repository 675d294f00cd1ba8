import MatchedLines.Host.Octets
/-!
What can be switched on and off in a shell, by a letter or by a name.
-/

namespace MatchedLines.Host.Shell

inductive Setting where
  | errexit
  | noglob
  | ignoreeof
  | interactive
  | monitor
  | noexec
  | stdin
  | xtrace
  | verbose
  | vi
  | emacs
  | noclobber
  | allexport
  | notify
  | nounset
  | privileged
  | nolog
  | debug
  deriving DecidableEq, Repr

namespace Setting

/-- All settings with their letters and names, in the order of their listing. -/
def table : List (Setting × Option Char × String) :=
  [(errexit, some 'e', "errexit"), (noglob, some 'f', "noglob"),
    (ignoreeof, some 'I', "ignoreeof"), (interactive, some 'i', "interactive"),
    (monitor, some 'm', "monitor"), (noexec, some 'n', "noexec"), (stdin, some 's', "stdin"),
    (xtrace, some 'x', "xtrace"), (verbose, some 'v', "verbose"), (vi, some 'V', "vi"),
    (emacs, some 'E', "emacs"), (noclobber, some 'C', "noclobber"),
    (allexport, some 'a', "allexport"), (notify, some 'b', "notify"),
    (nounset, some 'u', "nounset"), (privileged, some 'p', "privileged"),
    (nolog, none, "nolog"), (debug, none, "debug")]

def ofLetter (letter : Char) : Option Setting :=
  (table.find? fun (_, l, _) => l = some letter).map Prod.fst

def ofName (name : Octets) : Option Setting :=
  (table.find? fun (_, _, n) => n.toList = name).map Prod.fst

/-- The letters of the settings that are on, the last of the listing first. -/
def letters (on : List Setting) : Octets :=
  (table.filter fun (s, _, _) => on.contains s).filterMap (fun (_, l, _) => l) |>.reverse

/-- Switches a setting. -/
def switch (on : List Setting) (s : Setting) (value : Bool) : List Setting :=
  let others := on.filter (· ≠ s)
  if value then s :: others else others

end Setting
end MatchedLines.Host.Shell
