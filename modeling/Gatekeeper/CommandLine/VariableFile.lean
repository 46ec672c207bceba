import Gatekeeper.Settings.File
import Gatekeeper.Settings.Variables
import Gatekeeper.Text.Class
import Gatekeeper.Text.Lines
import Gatekeeper.Text.Word
/-!
# Files of variables

A file that completes the environment, one `name=value` a line.

* A variable that is set keeps its value, so of two lines for one name the first counts.
* A value may be quoted, and then run over several lines. Outside single quotes a backslash takes
  the next character as it is, or makes an `n` a line feed, and a dollar sign stands for the value
  of the variable it names. A comment begins with `#` after a blank, or at the head of a line.
* Reading ends at the first line that is not well formed; the lines before it count.
-/

namespace Gatekeeper.CommandLine

open Settings (Lookup)

namespace VariableFile

/-! ## Logical lines -/

/-- Where a scan of a value stands. -/
inductive Scan
  | settled
  | blank
  | escape
  | weak
  | weakEscape
  | strong
  | strongEscape
  deriving DecidableEq, Repr

/-- The next place of a scan; there is none where a comment begins. -/
def Scan.next? (s : Scan) (c : Char) : Option Scan :=
  match s with
  | .blank => if c = '#' then none else some (opened c)
  | .settled =>
    if Text.isBlank c && c ≠ '\n' && c ≠ '\r' then some .blank else some (opened c)
  | .escape => some .settled
  | .weak => some (if c = '\\' then .weakEscape else if c = '"' then .settled else .weak)
  | .weakEscape => some .weak
  | .strong => some (if c = '\\' then .strongEscape else if c = '\'' then .settled else .strong)
  | .strongEscape => some .strong
where
  /-- The place after a character outside quotes. -/
  opened (c : Char) : Scan :=
    if c = '\\' then .escape else if c = '"' then .weak else if c = '\'' then .strong else .settled

/-- The place after some characters, or the characters before a comment in them. -/
def Scan.over (s : Scan) : List Char → Scan ⊕ List Char
  | [] => .inl s
  | c :: t =>
    match s.next? c with
    | none => .inr []
    | some s =>
      match s.over t with
      | .inl s => .inl s
      | .inr before => .inr (c :: before)

/-- The lines of a file, joined where quotes are open at the end of a line; `begun` is the part of
a line that was read before. A last line that is left open is left out, and so is one that ends in
a blank or a backslash with no line end behind it. -/
def logicalLines (begun : List Char) (s : Scan) : List (List Char) → List (List Char)
  | [] => []
  | l :: ls =>
    let line := begun ++ l
    if (line.dropWhile Text.isBlank).head? = some '#' then logicalLines [] .settled ls
    else
      match s.over l with
      | .inr before => (begun ++ before) :: logicalLines [] .settled ls
      | .inl .settled => Text.withoutLineEnd line :: logicalLines [] .settled ls
      | .inl s => logicalLines line s ls

/-! ## Values -/

/-- Where the reader of a value stands. `quoted` tells whether double quotes are open. -/
inductive Mode
  | text (quoted : Bool)
  | strong
  | escape (quoted : Bool)
  /-- In the name of a variable, between braces or not. -/
  | name (quoted braced : Bool) (begun : List Char)
  /-- After a blank behind the value. -/
  | behind

/-- What a character after a backslash stands for. -/
def escaped? (c : Char) : Option Char :=
  if ['\\', '\'', '"', '$', ' '].contains c then some c else if c = 'n' then some '\n' else none

/-- The value of a variable, empty when it is not set. -/
def substituted (env : Lookup) (name : List Char) : List Char :=
  ((env (String.ofList name)).map String.toList).getD []

/-- The value that the rest of a line spells. -/
def value? (env : Lookup) (m : Mode) : List Char → Option (List Char)
  | [] =>
    match m with
    | .text false | .escape false | .behind => some []
    | .name false false name => some (substituted env name)
    | _ => none
  | c :: t =>
    match m with
    | .text quoted =>
      if c = '$' then value? env (.name quoted false []) t
      else if c = '\\' then value? env (.escape quoted) t
      else if c = '"' then value? env (.text (!quoted)) t
      else if !quoted && c = '\'' then value? env .strong t
      else if !quoted && (c = ' ' || c = '\t') then value? env .behind t
      else (value? env (.text quoted) t).map (c :: ·)
    | .strong =>
      if c = '\'' then value? env (.text false) t else (value? env .strong t).map (c :: ·)
    | .escape quoted =>
      match escaped? c with
      | some e => (value? env (.text quoted) t).map (e :: ·)
      | none => none
    | .name quoted false name =>
      if Text.isWordChar c then value? env (.name quoted false (name ++ [c])) t
      else if c = '\x7b' && name.isEmpty then value? env (.name quoted true []) t
      else if c = '$' then
        (value? env (.name quoted false []) t).map (substituted env name ++ ·)
      else (value? env (.text quoted) t).map (substituted env name ++ c :: ·)
    | .name quoted true name =>
      if c = '\x7d' then (value? env (.text quoted) t).map (substituted env name ++ ·)
      else value? env (.name quoted true (name ++ [c])) t
    | .behind =>
      if c = ' ' || c = '\t' then value? env .behind t
      else if c = '#' then some []
      else none

/-! ## Assignments -/

/-- A character of a name after its first. -/
def isNameChar (c : Char) : Bool := c.isAlphanum || c = '_' || c = '.'

/-- A name and what follows it. -/
def name? (cs : List Char) : Option (List Char × List Char) :=
  match cs with
  | [] => none
  | c :: _ =>
    if c.isAlpha || c = '_' then some (cs.takeWhile isNameChar, cs.dropWhile isNameChar) else none

/-- The text after its white space. -/
def skipBlanks (cs : List Char) : List Char := cs.dropWhile Text.isBlank

/-- What follows an equals sign, white space around it left out. -/
def afterEquals? (cs : List Char) : Option (List Char) :=
  match skipBlanks cs with
  | '=' :: t => some (skipBlanks t)
  | _ => none

/-- Name and spelled value of a line. The name may stand after the word `export`. -/
def split? (cs : List Char) : Option (List Char × List Char) := do
  let (name, rest) ← name? cs
  match afterEquals? rest with
  | some value => some (name, value)
  | none =>
    if name = "export".toList then
      let (name, rest) ← name? (skipBlanks rest)
      some (name, ← afterEquals? rest)
    else none

/-- The text without the white space at its end. -/
def trimmedEnd (cs : List Char) : List Char := (cs.reverse.dropWhile Text.isBlank).reverse

/-- The assignment of a line, which may hold none; a line that is not well formed gives nothing. -/
def assignment? (env : Lookup) (line : List Char) : Option (Option (String × String)) :=
  let cs := skipBlanks (trimmedEnd line)
  if cs.isEmpty || cs.head? = some '#' then some none
  else
    match split? cs with
    | none => none
    | some (name, spelled) =>
      if spelled.isEmpty || spelled.head? = some '#' then some (some (String.ofList name, ""))
      else
        (value? env (.text false) spelled).map fun v =>
          some (String.ofList name, String.ofList v)

/-- The environment with one more variable, unless it is set. -/
def define (env : Lookup) (name value : String) : Lookup := fun n =>
  match env n with
  | some v => some v
  | none => if n = name then some value else none

/-- The environment completed by lines, up to the first that is not well formed. -/
def apply (env : Lookup) : List (List Char) → Lookup
  | [] => env
  | l :: ls =>
    match assignment? env l with
    | none => env
    | some none => apply env ls
    | some (some (name, value)) => apply (define env name value) ls

/-- The lines of a file that are text, up to the first that is not. -/
def textLines (bytes : List UInt8) : List (List Char) :=
  ((Text.lines bytes).map Utf8.decode?).takeWhile Option.isSome |>.filterMap id

/-- The text without a byte order mark. -/
def withoutMark : List (List Char) → List (List Char)
  | (c :: t) :: ls => if c = '\ufeff' then t :: ls else (c :: t) :: ls
  | ls => ls

/-- The environment completed by a file. -/
def complete (env : Lookup) : Settings.FileEntry → Lookup
  | .content bytes => apply env (logicalLines [] .settled (withoutMark (textLines bytes)))
  | .unreadable _ => env

/-- The names that a file may speak of: its longest stretches of characters of names. -/
def names : Settings.FileEntry → List String
  | .content bytes =>
    (textLines bytes).flatMap fun l =>
      (l.splitOnP fun c => !(isNameChar c || Text.isWordChar c)).map String.ofList
  | .unreadable _ => []

/-- A variable that is set keeps its value. -/
theorem apply_of_isSome {env : Lookup} {n v : String} (h : env n = some v)
    (ls : List (List Char)) : apply env ls n = some v := by
  induction ls generalizing env with
  | nil => exact h
  | cons l ls ih =>
    unfold apply
    match assignment? env l with
    | none => exact h
    | some none => exact ih h
    | some (some (name, value)) => exact ih (by simp [define, h])

end VariableFile

end Gatekeeper.CommandLine
