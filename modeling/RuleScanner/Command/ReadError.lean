/-!
# Files that cannot be read

Why a command gets no text from a file.
-/

namespace RuleScanner

/-- Why a file cannot be read. -/
inductive ReadError where
  /-- The system refuses, with an error of a number. `details` is what else is known of it. -/
  | system (number : Nat) (details : String)
  /-- The file is not a text in UTF-8. -/
  | notText
  /-- Anything else, in its own words. -/
  | other (details : String)
  deriving DecidableEq, Repr

namespace ReadError

/-- The wordings of the system's errors that can come up when a file is read, by their numbers. -/
def wordings : List (Nat × String) :=
  [(1, "Operation not permitted"), (2, "No such file or directory"), (4, "Interrupted system call"), (5, "Input/output error"),
    (6, "No such device or address"), (9, "Bad file descriptor"), (11, "Resource temporarily unavailable"),
    (12, "Cannot allocate memory"), (13, "Permission denied"), (14, "Bad address"), (16, "Device or resource busy"),
    (19, "No such device"), (20, "Not a directory"), (21, "Is a directory"), (22, "Invalid argument"),
    (23, "Too many open files in system"), (24, "Too many open files"), (26, "Text file busy"), (27, "File too large"),
    (36, "File name too long"), (40, "Too many levels of symbolic links"), (75, "Value too large for defined data type"),
    (110, "Connection timed out"), (116, "Stale file handle")]

/-- The wording of a read error. -/
def message : ReadError → String
  | .system number details => s!"{(wordings.lookup number).getD details} (os error {number})"
  | .notText => "stream did not contain valid UTF-8"
  | .other details => details

end ReadError

end RuleScanner
