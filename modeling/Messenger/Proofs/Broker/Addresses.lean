import Mathlib.Data.List.DropRight
import Messenger.Broker.Endpoint
import Messenger.Proofs.Text.Numerals

/-!
The addresses that resolve. All that is read of an address stands behind its first `://`, if
it has one, and before the slashes at its end: a host, and behind the last colon its port. So
an address that is put together from these parts is taken apart into the same.
-/

namespace Messenger

namespace Text

theorem dropTrailing_eq (c : Char) (text : List Char) :
    dropTrailing c text = text.rdropWhile (· == c) := rfl

theorem exists_eq_dropTrailing_append (c : Char) (text : List Char) :
    ∃ count, text = dropTrailing c text ++ List.replicate count c := by
  have dropped : text.rtakeWhile (· == c) =
      List.replicate (text.rtakeWhile (· == c)).length c := by
    refine List.eq_replicate_iff.mpr ⟨rfl, fun other member => ?_⟩
    have same := List.mem_rtakeWhile_imp member
    exact eq_of_beq same
  refine ⟨(text.rtakeWhile (· == c)).length, ?_⟩
  rw [← dropped, dropTrailing_eq]
  exact List.rdropWhile_append_rtakeWhile.symm

theorem getLast?_dropTrailing (c : Char) (text : List Char) :
    (dropTrailing c text).getLast? ≠ some c := by
  rw [dropTrailing_eq]
  by_cases empty : text.rdropWhile (· == c) = []
  · rw [empty]
    exact nofun
  · rw [List.getLast?_eq_some_getLast empty]
    intro same
    exact List.rdropWhile_last_not _ _ empty (beq_iff_eq.mpr (Option.some.inj same))

theorem dropTrailing_append_replicate {c : Char} {text : List Char}
    (last : text.getLast? ≠ some c) (count : Nat) :
    dropTrailing c (text ++ List.replicate count c) = text := by
  rw [dropTrailing_eq]
  induction count with
  | zero =>
      rw [List.replicate_zero, List.append_nil]
      refine List.rdropWhile_eq_self_iff.mpr fun written same => last ?_
      rw [List.getLast?_eq_some_getLast written, eq_of_beq same]
  | succ count induction =>
      rw [List.replicate_succ', ← List.append_assoc, List.rdropWhile_concat,
        if_pos (beq_self_eq_true c), induction]

end Text

namespace Endpoint

/-- What ends a scheme. -/
def mark : List Char := [':', '/', '/']

/-- A mark does not begin in what is before a colon and end behind it. -/
theorem not_mark_infix_append {before rest : List Char} (plain : ¬mark <:+: before)
    (apart : ¬['/', '/'] <+: rest) (last : ':' ∉ rest) : ¬mark <:+: before ++ ':' :: rest := by
  have begins : ¬mark <+: ':' :: rest := fun here =>
    apart (List.cons_prefix_cons.mp here).2
  rw [List.infix_append_iff]
  rintro (inside | inside | ⟨left, right, split, ends, starts⟩)
  · exact plain inside
  · rcases List.infix_cons_iff.mp inside with here | later
    · exact begins here
    · exact last (later.subset List.mem_cons_self)
  · rcases List.prefix_cons_iff.mp starts with rfl | ⟨more, rfl, -⟩
    · rw [split, List.append_nil] at plain
      exact plain ends.isInfix
    · -- the one colon of a mark is its first character
      rcases List.append_eq_cons_iff.mp split.symm with ⟨rfl, same⟩ | ⟨others, rfl, same⟩
      · rw [same] at starts
        exact begins starts
      · have inside : ':' ∈ ['/', '/'] := by simp [same]
        simp at inside

/-- `rest` is what follows the scheme of an address. -/
inductive Behind : List Char → List Char → Prop
  | scheme {name : List Char} (unmarked : ¬mark <:+: name) (rest : List Char) :
      Behind (name ++ mark ++ rest) rest
  | bare {address : List Char} (unmarked : ¬mark <:+: address) : Behind address address

theorem dropScheme_eq_iff {address rest : List Char} :
    dropScheme address = rest ↔ Behind address rest := by
  have written : mark ≠ [] := List.cons_ne_nil _ _
  constructor
  · rintro rfl
    unfold dropScheme
    split
    · rename_i cut
      obtain ⟨same, first⟩ := Text.eq_append_of_cutFirst written cut
      rw [same]
      exact .scheme (fun inside => first (inside.trans (List.prefix_append _ _).isInfix)) _
    · rename_i cut
      exact .bare (Text.cutFirst_eq_none_iff.mp cut)
  · intro behind
    cases behind with
    | @scheme name unmarked =>
        have first : ¬mark <:+: name ++ mark.dropLast :=
          not_mark_infix_append unmarked (by decide) (by decide)
        rw [dropScheme, ← mark, Text.cutFirst_append written first]
    | bare unmarked => rw [dropScheme, ← mark, Text.cutFirst_eq_none_iff.mpr unmarked]

/-- What is left of an address names a host and a port, in digits or by default. -/
inductive Names (config : Config) : List Char → List Char → UInt16 → Prop
  | port (host : List Char) {numeral : List Char} {port : UInt16}
      (writes : Decimal.Writes numeral port.toNat) :
      Names config (host ++ ':' :: numeral) host port
  | bare {host : List Char} (absent : ':' ∉ host) : Names config host host config.defaultPort

theorem readHostPort_eq_ok_iff {config : Config} {text host : List Char} {port : UInt16} :
    readHostPort config text = .ok (host, port) ↔ Names config text host port := by
  constructor
  · intro reads
    unfold readHostPort at reads
    split at reads
    · rename_i cut
      cases reads
      exact .bare (Text.cutLast_eq_none_iff.mp cut)
    · rename_i cut
      obtain ⟨rfl, -⟩ := Text.eq_append_cons_of_cutLast cut
      split at reads
      · rename_i read
        cases reads
        exact .port _ (Decimal.read16?_eq_some_iff.mp read)
      · cases reads
  · intro names
    cases names with
    | port host writes =>
        rw [readHostPort, Text.cutLast_append_cons (writes.not_mem rfl (by decide))]
        dsimp only
        rw [Decimal.read16?_eq_some_iff.mpr writes]
    | bare absent => rw [readHostPort, Text.cutLast_eq_none_iff.mpr absent]

/-- Exactly those addresses resolve that hold a host, and with it a port or none, behind a scheme
or none and before any number of slashes. -/
theorem parse_eq_ok_iff {address : String} {config : Config} {endpoint : Endpoint} :
    parse address config = .ok endpoint ↔
      endpoint.host ≠ "" ∧ endpoint.tls = config.production ∧
        ∃ text slashes, Behind address.toList (text ++ List.replicate slashes '/') ∧
          text.getLast? ≠ some '/' ∧
          Names config text endpoint.host.toList endpoint.port := by
  constructor
  · intro resolves
    unfold parse at resolves
    split at resolves
    · cases resolves
    · rename_i host port reads
      split at resolves
      · cases resolves
      · rename_i named
        cases resolves
        obtain ⟨slashes, same⟩ :=
          Text.exists_eq_dropTrailing_append '/' (dropScheme address.toList)
        refine ⟨?_, rfl, _, slashes, dropScheme_eq_iff.mp same, Text.getLast?_dropTrailing _ _,
          ?_⟩
        · simpa [List.isEmpty_iff] using named
        · rw [String.toList_ofList]
          exact readHostPort_eq_ok_iff.mp reads
  · rintro ⟨named, secured, text, slashes, behind, last, names⟩
    have written : ¬endpoint.host.toList.isEmpty = true := by
      simpa [List.isEmpty_iff, String.toList_eq_nil_iff] using named
    rw [parse, dropScheme_eq_iff.mpr behind, Text.dropTrailing_append_replicate last,
      readHostPort_eq_ok_iff.mpr names]
    dsimp only
    rw [if_neg written, String.ofList_toList, ← secured]

def withScheme : Option String → String → String
  | none, rest => rest
  | some name, rest => name ++ "://" ++ rest

def slashes (count : Nat) : String :=
  String.ofList (List.replicate count '/')

theorem behind_withScheme {scheme : Option String}
    (unmarked : ∀ name ∈ scheme, ¬mark <:+: name.toList) {rest : String}
    (plain : ¬mark <:+: rest.toList) :
    Behind (withScheme scheme rest).toList rest.toList := by
  cases scheme with
  | none => exact .bare plain
  | some name =>
      have behind := Behind.scheme (unmarked name rfl) rest.toList
      rwa [withScheme, String.toList_append, String.toList_append]

/-- Neither the colon before a port nor the slashes behind it make a mark. -/
theorem not_mark_infix_port {host numeral : List Char} {port : Nat}
    (plain : ¬mark <:+: host) (writes : Decimal.Writes numeral port) (count : Nat) :
    ¬mark <:+: host ++ ':' :: (numeral ++ List.replicate count '/') := by
  apply not_mark_infix_append plain
  · obtain ⟨c, rest, same⟩ := List.exists_cons_of_ne_nil writes.ne_nil
    have solid : '/' ∉ numeral := writes.not_mem rfl (by decide)
    rw [same, List.cons_append, List.cons_prefix_cons]
    rintro ⟨rfl, -⟩
    exact solid (same ▸ List.mem_cons_self)
  · rw [List.mem_append, not_or]
    refine ⟨writes.not_mem rfl (by decide), fun member => ?_⟩
    exact absurd (List.eq_of_mem_replicate member) (by decide)

theorem getLast?_port {host numeral : List Char} {port : Nat}
    (writes : Decimal.Writes numeral port) : (host ++ ':' :: numeral).getLast? ≠ some '/' := by
  rw [List.getLast?_append_of_ne_nil _ (List.cons_ne_nil _ _)]
  intro last
  have solid : '/' ∉ numeral := writes.not_mem rfl (by decide)
  rcases List.mem_cons.mp (List.mem_of_getLast? last) with colon | member
  · exact absurd colon (by decide)
  · exact solid member

/-- An address that is put together from a scheme, a host, a port and slashes resolves to that
host and port, and one without a port to that host and the port of the configuration; the
scheme and the slashes may be left out, and the scheme does not decide about encryption. -/
theorem parse_withScheme (config : Config) {scheme : Option String}
    (unmarked : ∀ name ∈ scheme, ¬mark <:+: name.toList) {host : String} (named : host ≠ "")
    (plain : ¬mark <:+: host.toList) (port : UInt16) (count : Nat) :
    parse (withScheme scheme (host ++ ":" ++ Decimal.write port.toNat ++ slashes count)) config =
        .ok { host, port, tls := config.production } ∧
      (':' ∉ host.toList → host.toList.getLast? ≠ some '/' →
        parse (withScheme scheme (host ++ slashes count)) config =
          .ok { host, port := config.defaultPort, tls := config.production }) := by
  have writes := Decimal.writes_write port.toNat
  constructor
  · have parts : (host ++ ":" ++ Decimal.write port.toNat ++ slashes count).toList =
        host.toList ++ ':' :: (Decimal.write port.toNat).toList ++
          List.replicate count '/' := by
      simp [slashes]
    refine parse_eq_ok_iff.mpr
      ⟨named, rfl, _, count, parts ▸ behind_withScheme unmarked ?_, getLast?_port writes,
        .port _ writes⟩
    rw [parts, List.append_assoc, List.cons_append]
    exact not_mark_infix_port plain writes count
  · intro absent last
    have parts : (host ++ slashes count).toList = host.toList ++ List.replicate count '/' := by
      simp [slashes]
    refine parse_eq_ok_iff.mpr
      ⟨named, rfl, _, count, parts ▸ behind_withScheme unmarked ?_, last, .bare absent⟩
    -- without a colon there is no mark
    rw [parts]
    intro inside
    rcases List.mem_append.mp (inside.subset List.mem_cons_self) with member | member
    · exact absent member
    · exact absurd (List.eq_of_mem_replicate member) (by decide)

/-- A scheme that ends like the beginning of a mark, a host with colons and slashes in it, and
the largest port. -/
theorem parse_oddlyWritten :
    (∀ name ∈ some ":/", ¬mark <:+: name.toList) ∧
      ("[::1]:/" ≠ "" ∧ ¬mark <:+: "[::1]:/".toList) ∧
      parse ":/://[::1]:/:65535//" .test = .ok { host := "[::1]:/", port := 65535, tls := false } ∧
      ("/mixer/x" ≠ "" ∧ ¬mark <:+: "/mixer/x".toList ∧ ':' ∉ "/mixer/x".toList ∧
        "/mixer/x".toList.getLast? ≠ some '/') ∧
      parse ":/:///mixer/x//" {} = .ok { host := "/mixer/x", port := 8883, tls := true } := by
  have unmarked : ∀ name ∈ some ":/", ¬mark <:+: name.toList := by
    rintro name ⟨⟩
    decide +kernel
  have coloned : "[::1]:/" ≠ "" ∧ ¬mark <:+: "[::1]:/".toList := by
    decide +kernel
  have slashed : "/mixer/x" ≠ "" ∧ ¬mark <:+: "/mixer/x".toList ∧ ':' ∉ "/mixer/x".toList ∧
      "/mixer/x".toList.getLast? ≠ some '/' := by
    decide +kernel
  refine ⟨unmarked, coloned, ?_, slashed, ?_⟩
  · exact (parse_withScheme .test unmarked coloned.1 coloned.2 65535 2).1
  · exact (parse_withScheme {} unmarked slashed.1 slashed.2.1 0 2).2 slashed.2.2.1 slashed.2.2.2

end Endpoint

end Messenger
