/-! Cutting text at separators. The separator belongs to neither side. -/

namespace Messenger

namespace Text

def cutFirst (separator : List Char) : List Char → Option (List Char × List Char)
  | [] => if separator.isEmpty then some ([], []) else none
  | c :: rest =>
    if separator.isPrefixOf (c :: rest) then
      some ([], (c :: rest).drop separator.length)
    else
      (cutFirst separator rest).map fun (before, after) => (c :: before, after)

def cutLast (separator : Char) : List Char → Option (List Char × List Char)
  | [] => none
  | c :: rest =>
    match cutLast separator rest with
    | some (before, after) => some (c :: before, after)
    | none => if c = separator then some ([], rest) else none

def dropTrailing (c : Char) (text : List Char) : List Char :=
  (text.reverse.dropWhile (· == c)).reverse

/-- Whether `word` stands somewhere in `text` without a gap. -/
def occursIn (word : List Char) : List Char → Bool
  | [] => word.isEmpty
  | c :: rest => word.isPrefixOf (c :: rest) || occursIn word rest

variable {separator text before after : List Char}

theorem cutFirst_here {c : Char} {rest : List Char} (here : separator <+: c :: rest) :
    cutFirst separator (c :: rest) = some ([], (c :: rest).drop separator.length) :=
  if_pos (List.isPrefixOf_iff_prefix.mpr here)

theorem cutFirst_elsewhere {c : Char} {rest : List Char}
    (later : ¬separator <+: c :: rest) :
    cutFirst separator (c :: rest) =
      (cutFirst separator rest).map fun (before, after) => (c :: before, after) :=
  if_neg (mt List.isPrefixOf_iff_prefix.mp later)

theorem cutFirst_eq_none_iff : cutFirst separator text = none ↔ ¬separator <:+: text := by
  induction text with
  | nil => simp [cutFirst, List.infix_nil]
  | cons c rest induction =>
      rw [List.infix_cons_iff, not_or, ← induction]
      by_cases here : separator <+: c :: rest
      · simp [cutFirst_here here, here]
      · simp [cutFirst_elsewhere here, here]

theorem prefix_of_dropLast (before separator after : List Char) :
    before ++ separator.dropLast <+: before ++ separator ++ after := by
  rw [List.append_assoc, List.prefix_append_right_inj]
  exact (List.dropLast_prefix separator).trans (List.prefix_append separator after)

/-- A text is cut where the separator stands whole for the first time. -/
theorem cutFirst_append (written : separator ≠ [])
    (first : ¬separator <:+: before ++ separator.dropLast) (after : List Char) :
    cutFirst separator (before ++ separator ++ after) = some (before, after) := by
  have long := List.length_pos_iff.mpr written
  induction before with
  | nil =>
      obtain ⟨c, rest, rfl⟩ := List.exists_cons_of_ne_nil written
      have here : c :: rest <+: c :: (rest ++ after) := List.prefix_append (c :: rest) after
      have cut := cutFirst_here here
      rw [← List.cons_append, List.drop_left] at cut
      exact cut
  | cons c before induction =>
      rw [List.cons_append, List.infix_cons_iff, not_or] at first
      have later : ¬separator <+: c :: (before ++ separator ++ after) := by
        intro here
        -- one that begins here would end before the last character of the one that is there
        refine first.1 (List.prefix_of_prefix_length_le here
          (prefix_of_dropLast (c :: before) separator after) ?_)
        simp only [List.length_cons, List.length_append, List.length_dropLast]
        omega
      rw [List.cons_append, List.cons_append, cutFirst_elsewhere later, induction first.2]
      rfl

theorem eq_append_of_cutFirst (written : separator ≠ [])
    (cut : cutFirst separator text = some (before, after)) :
    text = before ++ separator ++ after ∧ ¬separator <:+: before ++ separator.dropLast := by
  induction text generalizing before with
  | nil => simp [cutFirst, written] at cut
  | cons c rest induction =>
      by_cases here : separator <+: c :: rest
      · rw [cutFirst_here here] at cut
        cases cut
        refine ⟨(List.prefix_iff_eq_append.mp here).symm, fun inside => ?_⟩
        have short := inside.length_le
        have long := List.length_pos_iff.mpr written
        rw [List.nil_append, List.length_dropLast] at short
        omega
      · rw [cutFirst_elsewhere here] at cut
        obtain ⟨⟨front, back⟩, later, same⟩ := Option.map_eq_some_iff.mp cut
        cases same
        obtain ⟨rfl, first⟩ := induction later
        refine ⟨rfl, ?_⟩
        rw [List.cons_append, List.infix_cons_iff, not_or]
        refine ⟨fun begins => here (begins.trans ?_), first⟩
        exact prefix_of_dropLast (c :: front) separator after

theorem cutFirst_of_not_mem {separator : Char} {text : List Char}
    (absent : separator ∉ text) : cutFirst [separator] text = none :=
  cutFirst_eq_none_iff.mpr fun inside => absent (inside.subset List.mem_cons_self)

theorem cutFirst_append_cons {separator : Char} {before : List Char}
    (absent : separator ∉ before) (after : List Char) :
    cutFirst [separator] (before ++ separator :: after) = some (before, after) := by
  have first : ¬[separator] <:+: before ++ [separator].dropLast := by
    rw [List.dropLast_singleton, List.append_nil]
    exact fun inside => absent (inside.subset List.mem_cons_self)
  rw [← cutFirst_append (List.cons_ne_nil _ _) first after, List.append_assoc,
    List.singleton_append]

theorem cutLast_eq_none_iff {separator : Char} {text : List Char} :
    cutLast separator text = none ↔ separator ∉ text := by
  induction text with
  | nil => simp [cutLast]
  | cons c rest induction =>
      rw [cutLast, List.mem_cons, not_or, ← induction]
      cases cutLast separator rest with
      | some sides => simp
      | none => simp [eq_comm]

theorem cutLast_append_cons {separator : Char} {after : List Char}
    (absent : separator ∉ after) (before : List Char) :
    cutLast separator (before ++ separator :: after) = some (before, after) := by
  induction before with
  | nil =>
      rw [List.nil_append, cutLast, cutLast_eq_none_iff.mpr absent]
      exact if_pos rfl
  | cons c rest induction => rw [List.cons_append, cutLast, induction]

/-- The last separator is the one that none stands behind. -/
theorem eq_append_cons_of_cutLast {separator : Char} {text before after : List Char}
    (cut : cutLast separator text = some (before, after)) :
    text = before ++ separator :: after ∧ separator ∉ after := by
  induction text generalizing before with
  | nil => cases cut
  | cons c rest induction =>
      rw [cutLast] at cut
      cases later : cutLast separator rest with
      | some sides =>
          obtain ⟨front, back⟩ := sides
          rw [later] at cut
          cases cut
          obtain ⟨same, absent⟩ := induction later
          exact ⟨by rw [same, List.cons_append], absent⟩
      | none =>
          rw [later] at cut
          obtain ⟨here, same⟩ := Option.ite_none_right_eq_some.mp cut
          cases same
          exact ⟨by rw [here, List.nil_append], cutLast_eq_none_iff.mp later⟩

end Text

end Messenger
