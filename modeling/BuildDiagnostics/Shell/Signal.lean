import BuildDiagnostics.Text.Class

/-!
# Signals

The names and the numbers of signals, what they do by themselves, and how a shell tells of a program
that one has ended.
-/

namespace BuildDiagnostics.Shell

/-- The signals by their names; the end of a shell counts as one. -/
def signals : List (String × Nat) :=
  [("EXIT", 0), ("HUP", 1), ("INT", 2), ("QUIT", 3), ("ILL", 4), ("TRAP", 5), ("ABRT", 6),
    ("BUS", 7), ("FPE", 8), ("KILL", 9), ("USR1", 10), ("SEGV", 11), ("USR2", 12), ("PIPE", 13), ("ALRM", 14),
    ("TERM", 15), ("STKFLT", 16), ("CHLD", 17), ("CONT", 18), ("STOP", 19), ("TSTP", 20),
    ("TTIN", 21), ("TTOU", 22), ("URG", 23), ("XCPU", 24), ("XFSZ", 25), ("VTALRM", 26), ("PROF", 27),
    ("WINCH", 28), ("IO", 29), ("PWR", 30), ("SYS", 31)]

/-- The name of a signal. -/
def signalName (n : Nat) : String :=
  ((signals.find? fun x => x.2 == n).map Prod.fst).getD (toString n)

/-- The number of a signal that is given by name or by number. -/
def signalNumber? (text : String) : Option Nat :=
  if !text.isEmpty && text.toList.all Text.isDigitAscii then text.toNat?.filter (· ≤ 64)
  else signals.lookup (text.map Char.toUpper)

/-- Whether a signal does nothing by itself. -/
def isHarmless (n : Nat) : Bool := n = 0 || n = 17 || n = 18 || n = 23 || n = 28

/-- What a shell tells of a program that a signal has ended. -/
def signalMessage (n : Nat) : String :=
  match n with
  | 1 => "Hangup"
  | 2 | 13 => ""
  | 3 => "Quit"
  | 4 => "Illegal instruction"
  | 5 => "Trace/breakpoint trap"
  | 6 => "Aborted"
  | 7 => "Bus error"
  | 8 => "Floating point exception"
  | 9 => "Killed"
  | 10 => "User defined signal 1"
  | 11 => "Segmentation fault"
  | 12 => "User defined signal 2"
  | 14 => "Alarm clock"
  | 15 => "Terminated"
  | n => "Signal " ++ toString n

end BuildDiagnostics.Shell
