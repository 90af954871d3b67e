import ResourceManager.Environment.Basic
import ResourceManager.Text.Alphanumeric

/-!
# References to variables

A text may refer to a variable as `$NAME` or between braces, there with a default behind `:-` that
stands in when the variable is not set.  A reference without a value stays as it is written, and two
dollar signs are one.  The values are not looked at again.

`Template.parts` finds the references without knowing any variable, and `expand` puts in values.
-/

set_option autoImplicit false

namespace ResourceManager
namespace Template

/-- A part of a text that may refer to variables. -/
inductive Part where
  | char (c : Char)
  /-- A reference, with its default and as it is written. -/
  | reference (name : List Char) (default : Option (List Char)) (written : List Char)
deriving DecidableEq, Repr

/-- The characters of a name without braces. -/
def isNameChar (c : Char) : Bool :=
  Text.isAlphanumeric c || c == '_'

/-- The text before the first closing brace and the text behind it. -/
def splitBrace : List Char → Option (List Char × List Char)
  | [] => none
  | c :: rest =>
    if c = '\x7d' then some ([], rest) else (splitBrace rest).map fun p ↦ (c :: p.1, p.2)

theorem splitBrace_length {s inside behind : List Char} (h : splitBrace s = some (inside, behind)) :
    behind.length < s.length := by
  induction s generalizing inside behind with
  | nil => simp [splitBrace] at h
  | cons c s ih =>
    rw [splitBrace] at h
    split at h
    · simp only [Option.some.injEq, Prod.mk.injEq] at h
      simp [← h.2]
    · obtain ⟨p, hp, he⟩ := Option.map_eq_some_iff.1 h
      simp only [Prod.mk.injEq] at he
      have : p.2.length < s.length := ih hp
      rw [← he.2]
      simp only [List.length_cons]
      omega

/-- The text before the first `:-` and the text behind it. -/
def splitDefault : List Char → Option (List Char × List Char)
  | [] => none
  | c :: rest =>
    match c, rest with
    | ':', '-' :: behind => some ([], behind)
    | _, _ => (splitDefault rest).map fun p ↦ (c :: p.1, p.2)

/-- The reference of what stands between braces.  A mark of a default at its start belongs to the
name. -/
def braced (inside : List Char) : Part :=
  let written := '$' :: '\x7b' :: (inside ++ ['\x7d'])
  match splitDefault inside with
  | some (c :: name, default) => .reference (c :: name) (some default) written
  | _ => .reference inside none written

/-- The parts of a text. -/
def parts (s : List Char) : List Part :=
  match s with
  | [] => []
  | '$' :: rest =>
    match rest with
    | '$' :: behind => .char '$' :: parts behind
    | '\x7b' :: inner =>
      match _h : splitBrace inner with
      | some (inside, behind) => braced inside :: parts behind
      | none => .char '$' :: .char '\x7b' :: parts inner
    | c :: more =>
      if isNameChar c then
        let name := c :: more.takeWhile isNameChar
        .reference name none ('$' :: name) :: parts (more.dropWhile isNameChar)
      else .char '$' :: parts (c :: more)
    | [] => [.char '$']
  | c :: rest => .char c :: parts rest
termination_by s.length
decreasing_by
  · simp only [List.length_cons]; omega
  · have := splitBrace_length _h
    simp only [List.length_cons]; omega
  · simp only [List.length_cons]; omega
  · have := (List.dropWhile_sublist isNameChar (l := more)).length_le
    simp only [List.length_cons]; omega
  · simp only [List.length_cons]; omega
  · simp only [List.length_cons]; omega

/-- What a part stands for in an environment. -/
def Part.value (e : Environment) : Part → List Char
  | .char c => [c]
  | .reference name default written =>
    match e.lookup? (String.ofList name), default with
    | some value, _ => value.toList
    | none, some default => default
    | none, none => written

end Template

namespace Environment

/-- A text with its references replaced. -/
def expand (e : Environment) (s : List Char) : List Char :=
  (Template.parts s).flatMap (Template.Part.value e)

end Environment
end ResourceManager
