import Messenger.Payload.Contact
import Messenger.Payload.Ping
import Messenger.Proofs.Text.Numerals

/-!
Payloads that a separator divides. A ping is cut at its last colon, contact details at their
first underscore; and it does not matter which of the two readers of contact details is asked.
-/

namespace Messenger

namespace Ping

theorem parse_of_not_mem {raw : String} (absent : ':' ∉ raw.toList) :
    parse raw = .error ⟨.format, .ping, .noSeparator⟩ := by
  rw [parse, Text.cutLast_eq_none_iff.mpr absent]

theorem parse_append {hash time : String} (last : ':' ∉ time.toList) :
    parse (hash ++ ":" ++ time) =
      if hash = "" then .error ⟨.format, .ping, .emptyHash⟩
      else
        match Decimal.read64 time with
        | .ok timestamp => .ok { paymentHash := hash, timestamp }
        | .error fault => .error ⟨.format, .ping, .badTime fault⟩ := by
  have cut : Text.cutLast ':' (hash ++ ":" ++ time).toList =
      some (hash.toList, time.toList) := by
    rw [String.toList_append, String.toList_append, List.append_assoc]
    exact Text.cutLast_append_cons last hash.toList
  rw [parse, cut]
  simp only [String.ofList_toList]
  by_cases unnamed : hash = ""
  · rw [if_pos unnamed]
    exact if_pos (by rw [unnamed]; rfl)
  · rw [if_neg unnamed]
    exact if_neg (by rwa [List.isEmpty_iff, String.toList_eq_nil_iff])

/-- A text without a colon, or one that is cut at its last colon. -/
theorem not_mem_or_exists_append (raw : String) :
    ':' ∉ raw.toList ∨
      ∃ hash time : String, raw = hash ++ ":" ++ time ∧ ':' ∉ time.toList := by
  cases cut : Text.cutLast ':' raw.toList with
  | none => exact Or.inl (Text.cutLast_eq_none_iff.mp cut)
  | some sides =>
      obtain ⟨hash, time⟩ := sides
      obtain ⟨same, last⟩ := Text.eq_append_cons_of_cutLast cut
      refine Or.inr ⟨String.ofList hash, String.ofList time, ?_, ?_⟩
      · rw [← String.toList_inj, same]
        simp
      · rwa [String.toList_ofList]

theorem parse_eq_ok_iff {raw : String} {ping : Ping} :
    parse raw = .ok ping ↔
      ∃ time : String, raw = ping.paymentHash ++ ":" ++ time ∧ ping.paymentHash ≠ "" ∧
        ':' ∉ time.toList ∧ Decimal.Writes time.toList ping.timestamp.toNat := by
  constructor
  · intro reads
    rcases not_mem_or_exists_append raw with absent | ⟨hash, time, rfl, last⟩
    · rw [parse_of_not_mem absent] at reads
      cases reads
    · rw [parse_append last] at reads
      split at reads
      · cases reads
      · rename_i named
        split at reads
        · rename_i timestamp read
          cases reads
          exact ⟨time, rfl, named, last, Decimal.read64_eq_ok_iff.mp read⟩
        · cases reads
  · rintro ⟨time, rfl, named, last, writes⟩
    rw [parse_append last, if_neg named, Decimal.read64_eq_ok_iff.mpr writes]

/-- A ping is read from a hash, a colon and a numeral of its timestamp, with the colon being
the last, and from nothing else; so it is read back from the form that is written. -/
theorem parse_exactly_announced :
    (∀ raw hash timestamp, parse raw = .ok ⟨hash, timestamp⟩ ↔
      ∃ time : String, raw = hash ++ ":" ++ time ∧ hash ≠ "" ∧ ':' ∉ time.toList ∧
        Decimal.Writes time.toList timestamp.toNat) ∧
    ∀ hash timestamp, hash ≠ "" →
      parse (hash ++ ":" ++ Decimal.write timestamp.toNat) = .ok ⟨hash, timestamp⟩ := by
  refine ⟨fun raw hash timestamp => parse_eq_ok_iff, fun hash timestamp named => ?_⟩
  have writes := Decimal.writes_write timestamp.toNat
  exact parse_eq_ok_iff.mpr ⟨_, rfl, named, writes.not_mem rfl (by decide), writes⟩

/-- A hash with colons in it, and the largest timestamp with a sign and with zeros before it. -/
theorem parse_largest_timestamp :
    parse "a::b:+0018446744073709551615" = .ok ⟨"a::b", 18446744073709551615⟩ ∧
      "a::b" ≠ "" ∧
      parse ("a::b" ++ ":" ++ Decimal.write (18446744073709551615 : UInt64).toNat) =
        .ok ⟨"a::b", 18446744073709551615⟩ := by
  have named : "a::b" ≠ "" := by decide
  have writes : Decimal.Writes "+0018446744073709551615".toList 18446744073709551615 :=
    ⟨"0018446744073709551615".toList, Or.inr rfl, by decide, List.all_eq_true.mp rfl,
      by decide⟩
  have read := (parse_exactly_announced.1 _ "a::b" 18446744073709551615).mpr
    ⟨"+0018446744073709551615", rfl, named, writes.not_mem rfl (by decide), writes⟩
  exact ⟨read, named, parse_exactly_announced.2 _ _ named⟩

end Ping

namespace Contact

/-- The texts of contact details: a hint stands behind an underscore and is not empty; without
a hint an underscore may still end the text. -/
structure WrittenAs (contact : Contact) (raw : String) : Prop where
  named : contact.key ≠ ""
  absent : '_' ∉ contact.key.toList
  composed : match contact.routeHint with
    | some hint => hint ≠ "" ∧ raw = contact.key ++ "_" ++ hint
    | none => raw = contact.key ∨ raw = contact.key ++ "_"

theorem build_key {key : String} (named : key ≠ "") (field : Field)
    (hint : Option (List Char)) :
    build field key.toList hint =
      .ok ⟨key, (hint.filter fun hint => !hint.isEmpty).map String.ofList⟩ := by
  have written : ¬key.toList.isEmpty = true := by
    simpa [List.isEmpty_iff, String.toList_eq_nil_iff] using named
  rw [build, if_neg written, String.ofList_toList]

structure Parts (raw key : String) (hint : Option (List Char)) : Prop where
  own : parseOwn raw = build .myContactInfo key.toList hint
  inviter : parseInviter raw = build .inviterContactInfo key.toList hint

theorem parts_of_not_mem {raw : String} (absent : '_' ∉ raw.toList) : Parts raw raw none where
  own := by rw [parseOwn, Text.cutFirst_of_not_mem absent]
  inviter := by rw [parseInviter, List.splitOn_eq_singleton absent]

theorem toList_parts (key hint : String) :
    (key ++ "_" ++ hint).toList = key.toList ++ '_' :: hint.toList := by
  simp

theorem parts_append {key : String} (absent : '_' ∉ key.toList) (hint : String) :
    Parts (key ++ "_" ++ hint) key (some hint.toList) where
  own := by
    rw [parseOwn, toList_parts, Text.cutFirst_append_cons absent]
  inviter := by
    have apart : ∀ c ∈ key.toList, (c == '_') = false := by
      intro c member
      exact beq_eq_false_iff_ne.mpr fun same => absent (same ▸ member)
    have pieces : (key.toList ++ '_' :: hint.toList).splitOn '_' =
        key.toList :: hint.toList.splitOn '_' :=
      List.splitOnP_append_cons_of_forall_mem apart '_' rfl hint.toList
    -- the pieces behind the first underscore are put together again as they were
    have joined : ['_'].intercalate (hint.toList.splitOn '_') = hint.toList :=
      List.intercalate_splitOn '_'
    obtain ⟨piece, others, split⟩ :=
      List.exists_cons_of_ne_nil (List.splitOn_ne_nil '_' hint.toList)
    rw [parseInviter, toList_parts, pieces, split, ← joined, split]

/-- Without a key both readers give the same reason. -/
theorem parse_keyless {raw : String} (keyless : raw = "" ∨ raw.toList.head? = some '_') :
    parseOwn raw = .error ⟨.format, .myContactInfo, .emptyKey⟩ ∧
      parseInviter raw = .error ⟨.format, .inviterContactInfo, .emptyKey⟩ := by
  rcases keyless with rfl | starts
  · have parts := @parts_of_not_mem "" (by decide)
    exact ⟨parts.own, parts.inviter⟩
  · obtain ⟨rest, same⟩ := List.head?_eq_some_iff.mp starts
    have whole : "" ++ "_" ++ String.ofList rest = raw := by
      rw [← String.toList_inj, toList_parts, same]
      simp
    have parts := @parts_append "" (by decide) (String.ofList rest)
    rw [whole] at parts
    exact ⟨parts.own, parts.inviter⟩

theorem WrittenAs.parse {contact : Contact} {raw : String} (written : contact.WrittenAs raw) :
    parseOwn raw = .ok contact ∧ parseInviter raw = .ok contact := by
  obtain ⟨key, routeHint⟩ := contact
  obtain ⟨named, absent, composed⟩ := written
  cases routeHint with
  | none =>
      rcases composed with rfl | rfl
      · have parts := parts_of_not_mem absent
        rw [parts.own, parts.inviter, build_key named, build_key named]
        exact ⟨rfl, rfl⟩
      · have parts := parts_append absent ""
        rw [String.append_empty] at parts
        rw [parts.own, parts.inviter, build_key named, build_key named]
        exact ⟨rfl, rfl⟩
  | some hint =>
      obtain ⟨hinted, rfl⟩ := composed
      have parts := parts_append absent hint
      have kept : (some hint.toList).filter (fun hint => !hint.isEmpty) = some hint.toList := by
        simpa [Option.filter_some, String.toList_eq_nil_iff] using hinted
      rw [parts.own, parts.inviter, build_key named, build_key named, kept, Option.map_some,
        String.ofList_toList]
      exact ⟨rfl, rfl⟩

theorem WrittenAs.keyed {contact : Contact} {raw : String} (written : contact.WrittenAs raw) :
    raw ≠ "" ∧ raw.toList.head? ≠ some '_' := by
  obtain ⟨c, rest, key⟩ := List.exists_cons_of_ne_nil
    (mt String.toList_eq_nil_iff.mp written.named)
  have starts : ∃ rest, raw.toList = c :: rest := by
    have composed := written.composed
    split at composed
    · exact ⟨_, by rw [composed.2, toList_parts, key]; rfl⟩
    · rcases composed with same | same
      · exact ⟨_, by rw [same, key]⟩
      · exact ⟨_, by rw [same, String.toList_append, key]; rfl⟩
  obtain ⟨others, same⟩ := starts
  constructor
  · rintro rfl
    cases same
  · rw [same, List.head?_cons]
    intro underscore
    cases underscore
    exact written.absent (key ▸ List.mem_cons_self)

theorem exists_writtenAs {raw : String} (written : raw ≠ "")
    (keyed : raw.toList.head? ≠ some '_') : ∃ contact : Contact, contact.WrittenAs raw := by
  by_cases member : '_' ∈ raw.toList
  · obtain ⟨key, hint, same, absent⟩ := List.eq_append_cons_of_mem member
    have named : String.ofList key ≠ "" := by
      intro empty
      rw [String.ofList_eq_empty_iff.mp empty] at same
      exact keyed (by rw [same]; rfl)
    have whole : raw = String.ofList key ++ "_" ++ String.ofList hint := by
      rw [← String.toList_inj, toList_parts, same]
      simp
    by_cases hinted : String.ofList hint = ""
    · rw [hinted, String.append_empty] at whole
      exact ⟨⟨String.ofList key, none⟩, named, by rwa [String.toList_ofList], Or.inr whole⟩
    · exact ⟨⟨String.ofList key, some (String.ofList hint)⟩, named,
        by rwa [String.toList_ofList], hinted, whole⟩
  · exact ⟨⟨raw, none⟩, written, member, Or.inl rfl⟩

/-- The two readers agree on every text, up to the field that they blame. -/
theorem readers_agree (raw : String) :
    ((∃ contact, parseOwn raw = .ok contact ∧ parseInviter raw = .ok contact) ∨
      ∃ form reason, parseOwn raw = .error ⟨form, .myContactInfo, reason⟩ ∧
        parseInviter raw = .error ⟨form, .inviterContactInfo, reason⟩) ∧
    ((∃ contact, parseOwn raw = .ok contact) ↔ raw ≠ "" ∧ raw.toList.head? ≠ some '_') ∧
    ∀ contact, parseOwn raw = .ok contact ↔ contact.WrittenAs raw := by
  by_cases keyed : raw ≠ "" ∧ raw.toList.head? ≠ some '_'
  · obtain ⟨contact, written⟩ := exists_writtenAs keyed.1 keyed.2
    obtain ⟨own, inviter⟩ := written.parse
    refine ⟨Or.inl ⟨contact, own, inviter⟩, iff_of_true ⟨contact, own⟩ keyed, ?_⟩
    intro other
    refine ⟨fun reads => ?_, fun otherWritten => otherWritten.parse.1⟩
    cases own.symm.trans reads
    exact written
  · have keyless : raw = "" ∨ raw.toList.head? = some '_' :=
      (Decidable.not_and_iff_not_or_not.mp keyed).imp Decidable.of_not_not
        Decidable.of_not_not
    obtain ⟨own, inviter⟩ := parse_keyless keyless
    have unread : ∀ contact, parseOwn raw ≠ .ok contact := by
      intro contact reads
      cases own.symm.trans reads
    refine ⟨Or.inr ⟨_, _, own, inviter⟩, iff_of_false (not_exists.mpr unread) keyed, ?_⟩
    intro contact
    exact iff_of_false (unread contact) fun written => keyed written.keyed

/-- A hint keeps its own underscores, and one that ends the text stands before no hint. -/
example :
    parseInviter "a_b__c_" = .ok ⟨"a", some "b__c_"⟩ ∧
      parseInviter "a_" = .ok ⟨"a", none⟩ :=
  ⟨rfl, rfl⟩

end Contact

end Messenger
