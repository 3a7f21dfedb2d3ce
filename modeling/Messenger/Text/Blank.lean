/-! White space in text: the characters with the Unicode property White_Space. -/

namespace Messenger

namespace Text

def isBlank (c : Char) : Bool :=
  let code := c.toNat
  (9 ≤ code && code ≤ 13) || code == 32 || code == 0x85 || code == 0xA0 ||
    code == 0x1680 || (0x2000 ≤ code && code ≤ 0x200A) || code == 0x2028 ||
    code == 0x2029 || code == 0x202F || code == 0x205F || code == 0x3000

def trim (text : List Char) : List Char :=
  ((text.dropWhile isBlank).reverse.dropWhile isBlank).reverse

theorem dropWhile_isBlank_eq_self {text : List Char}
    (solid : ∀ c ∈ text, isBlank c = false) : text.dropWhile isBlank = text := by
  cases text with
  | nil => rfl
  | cons first rest => exact List.dropWhile_cons_of_neg (by simp [solid first])

theorem dropWhile_isBlank_eq_nil {text : List Char}
    (blank : ∀ c ∈ text, isBlank c = true) : text.dropWhile isBlank = [] := by
  simpa using @List.dropWhile_append_of_pos _ isBlank text [] blank

theorem trim_surrounded {before text after : List Char}
    (beforeBlank : ∀ c ∈ before, isBlank c = true)
    (afterBlank : ∀ c ∈ after, isBlank c = true)
    (solid : ∀ c ∈ text, isBlank c = false) :
    trim (before ++ text ++ after) = text := by
  have backBlank : ∀ c ∈ after.reverse, isBlank c = true := by
    intro c member
    exact afterBlank c (List.mem_reverse.mp member)
  have backSolid : ∀ c ∈ text.reverse, isBlank c = false := by
    intro c member
    exact solid c (List.mem_reverse.mp member)
  rw [trim, List.append_assoc, List.dropWhile_append_of_pos beforeBlank]
  cases text with
  | nil => rw [List.nil_append, dropWhile_isBlank_eq_nil afterBlank]; rfl
  | cons first rest =>
      have solidFirst : ¬isBlank first = true := by simp [solid first]
      rw [List.cons_append, List.dropWhile_cons_of_neg solidFirst, ← List.cons_append,
        List.reverse_append, List.dropWhile_append_of_pos backBlank,
        dropWhile_isBlank_eq_self backSolid, List.reverse_reverse]

/-- The number of words, a word being a longest run without white space. -/
def wordCount : List Char → Nat
  | [] => 0
  | [c] => if isBlank c then 0 else 1
  | c :: d :: rest =>
    (if !isBlank c && isBlank d then 1 else 0) + wordCount (d :: rest)

end Text

end Messenger
