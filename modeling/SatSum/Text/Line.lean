import SatSum.Text.Blank
import SatSum.Word

/-! # Lines and tokens

A text is cut into lines, a line into tokens. Columns count bytes of the UTF-8 form, from one, so
that a report about a token points at its first byte.

* `tokens_text`: the characters of the tokens are the characters of the line that are not blank.
-/

namespace SatSum.Text

/-! ## Lines -/

/-- A finished line, given backwards: one carriage return before the line feed belongs to the line
    end. -/
def finishLine : List Char → List Char
  | '\r' :: rest => rest.reverse
  | line => line.reverse

/-- The lines of `current` (backwards) followed by the given characters. Nothing follows the last
    line feed unless there are characters after it. -/
def linesFrom (current : List Char) : List Char → List (List Char)
  | [] => if current.isEmpty then [] else [current.reverse]
  | c :: rest =>
    if c = '\n' then finishLine current :: linesFrom [] rest else linesFrom (c :: current) rest

def lines (text : String) : List (List Char) :=
  linesFrom [] text.toList

/-! ## Tokens -/

/-- A maximal run of characters that are not blank, with the column it starts at. -/
structure Token where
  column : Nat
  text : List Char
deriving DecidableEq, Repr

def Token.written (token : Token) : String :=
  String.ofList token.text

def byteLength (chars : List Char) : Nat :=
  total (chars.map Char.utf8Size)

/-- The tokens of the rest of a line that starts at `column`. -/
def tokensFrom (column : Nat) : List Char → List Token
  | [] => []
  | c :: rest =>
    if isBlank c then
      tokensFrom (column + c.utf8Size) rest
    else
      let tail := rest.takeWhile (!isBlank ·)
      ⟨column, c :: tail⟩ ::
        tokensFrom (column + c.utf8Size + byteLength tail) (rest.dropWhile (!isBlank ·))
termination_by chars => chars.length
decreasing_by
  · simp
  · have := (List.dropWhile_sublist (l := rest) (!isBlank ·)).length_le
    simp only [List.length_cons]
    omega

def tokens (line : List Char) : List Token :=
  tokensFrom 1 line

/-- The column of the first character of a line that is not blank. -/
def indent (line : List Char) : Nat :=
  1 + byteLength (line.takeWhile isBlank)

theorem tokensFrom_text (column : Nat) (chars : List Char) :
    (tokensFrom column chars).flatMap Token.text = chars.filter (!isBlank ·) := by
  fun_induction tokensFrom column chars with
  | case1 => rfl
  | case2 column c rest blank ih => simp [blank, ih]
  | case3 column c rest solid tail ih =>
    have split : rest.filter (!isBlank ·) = tail ++ (rest.dropWhile (!isBlank ·)).filter (!isBlank ·) := by
      conv => lhs; rw [← List.takeWhile_append_dropWhile (p := (!isBlank ·)) (l := rest)]
      rw [List.filter_append]
      congr 1
      exact List.filter_eq_self.2 fun x member =>
        List.all_eq_true.1 (List.all_takeWhile (p := (!isBlank ·)) (l := rest)) x member
    simp [ih, solid, split]

theorem tokens_text (line : List Char) :
    (tokens line).flatMap Token.text = line.filter (!isBlank ·) :=
  tokensFrom_text 1 line

end SatSum.Text
