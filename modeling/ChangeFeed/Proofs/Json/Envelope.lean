import ChangeFeed.Handler
import ChangeFeed.Proofs.Json.Reading

/-!
# The envelope can be read back

What `rawJsonWithMetadata` publishes is JSON whose nine members hold the metadata of the event and
its content. The envelope lies around the content, so that a content nested as deep as the reader
goes is published but not read back.
-/

namespace ChangeFeed.Handler

open Json

variable {d : DocumentEvent} {m : Message}

/-- The envelope with its members in the order of their keys. -/
lemma envelope_eq (d : DocumentEvent) :
    envelope d = .obj [
      ("bucket", .str d.bucket),
      ("bySeqno", .int d.message.seqno.toNat),
      ("cas", .int d.message.cas.toNat),
      ("content", contentValue d.message),
      ("event", .str d.message.kind.name),
      ("key", .str (Utf8.decodeLossy d.message.key)),
      ("partition", .int d.message.partition.toNat),
      ("revSeqno", .int d.message.revision.toNat),
      ("vBucketUuid", .int d.epoch.toNat)] := by
  simp +decide only [envelope, Dictionary.ofList, Dictionary.insert, List.foldl_cons,
    List.foldl_nil, Message.keyText, if_true, if_false]

/-- What is no mutation has no content. -/
lemma contentValue_of_ne_mutation (h : m.kind ≠ .mutation) : contentValue m = .null := by
  rw [contentValue, if_pos]
  cases hk : m.kind with
  | mutation => exact absurd hk h
  | deletion => rfl
  | expiration => rfl

/-- The content of a mutation is its value if it can be parsed, and else its text. -/
lemma contentValue_of_mutation (h : m.kind = .mutation) :
    contentValue m = (Json.ofBytes? m.content).getD (.str (Utf8.decodeLossy m.content)) := by
  rw [contentValue, h]
  rfl

/-- The content of a mutation that can be parsed is its value. -/
lemma contentValue_of_ofBytes? (h : m.kind = .mutation) {v : Json}
    (hv : Json.ofBytes? m.content = some v) : contentValue m = v := by
  rw [contentValue_of_mutation h, hv]
  rfl

/-- The content is nested no deeper than the reader goes, and exact if it is not JSON with
doubles. -/
lemma sound_contentValue (m : Message) : Sound maxDepth (contentValue m) := by
  by_cases hk : m.kind = .mutation
  · rw [contentValue_of_mutation hk]
    cases hv : Json.ofBytes? m.content with
    | none => exact ⟨Nat.zero_le _, fun _ => .str _⟩
    | some v => exact sound_of_ofBytes? hv
  · rw [contentValue_of_ne_mutation hk]
    exact ⟨Nat.zero_le _, fun _ => .null⟩

/-- Content without a double can be read back. -/
lemma exact_contentValue
    (h : m.kind = .mutation → ∀ v, Json.ofBytes? m.content = some v → v.integral) :
    Exact (contentValue m) := by
  apply (sound_contentValue m).exact_of_integral
  by_cases hk : m.kind = .mutation
  · rw [contentValue_of_mutation hk]
    cases hv : Json.ofBytes? m.content with
    | none => rfl
    | some v => exact h hk v hv
  · rw [contentValue_of_ne_mutation hk]
    rfl

/-- Only JSON that is nested as deep as the reader goes gives a content of that depth. -/
lemma nested_of_depth_contentValue (h : (contentValue m).depth = maxDepth) :
    m.kind = .mutation ∧ Nested maxDepth m.content := by
  by_cases hk : m.kind = .mutation
  · rw [contentValue_of_mutation hk] at h
    cases hv : Json.ofBytes? m.content with
    | none =>
      rw [hv] at h
      cases h
    | some v =>
      rw [hv] at h
      exact ⟨hk, nested_of_depth_eq hv h⟩
  · rw [contentValue_of_ne_mutation hk] at h
    cases h

/-- A natural number of 64 bits can be read back. -/
lemma exact_nat {n : Nat} (h : n < 2 ^ 64) : Exact (.int n) :=
  .int (by omega) (by exact_mod_cast h)

/-- The envelope of an exact content is exact. -/
lemma exact_envelope (h : Exact (contentValue d.message)) : Exact (envelope d) := by
  rw [envelope_eq]
  have hkeys : ["bucket", "bySeqno", "cas", "content", "event", "key", "partition", "revSeqno",
    "vBucketUuid"].Pairwise (· < ·) := by decide
  refine .obj hkeys ?_
  have hp : d.message.partition.toNat < 2 ^ 64 :=
    Nat.lt_trans d.message.partition.toNat_lt (by decide)
  simp only [List.forall_mem_cons]
  exact ⟨.str _, exact_nat d.message.seqno.toNat_lt, exact_nat d.message.cas.toNat_lt, h, .str _,
    .str _, exact_nat hp, exact_nat d.message.revision.toNat_lt, exact_nat d.epoch.toNat_lt,
    fun m hm => by cases hm⟩

/-- The envelope lies around the content and nothing else. -/
lemma depth_envelope (d : DocumentEvent) :
    (envelope d).depth = (contentValue d.message).depth + 1 := by
  rw [envelope_eq]
  simp [Json.depth, depthMembers]

/-- An envelope is read back unless its content is too deep. -/
lemma ofBytes?_envelope (h : Exact (contentValue d.message)) :
    Json.ofBytes? (Utf8.encode (envelope d).render) =
      if (contentValue d.message).depth < maxDepth then some (envelope d) else none := by
  rw [ofBytes?_encode_render (exact_envelope h), depth_envelope]
  rfl

/-- Every event is published under its own key in an envelope that is well-formed UTF-8, and the
envelope is read back as its nine members. The content is null for a removal, the value that it
holds if it is JSON, and else its text. Where the value is nested as deep as the reader goes, and
just there, the envelope is refused: then the octets of the content are nested as deep, too. -/
theorem envelope_read_back (d : DocumentEvent) (topic : String)
    (h : d.message.kind = .mutation →
      ∀ v, Json.ofBytes? d.message.content = some v → v.integral) :
    ∃ bytes text content,
      rawJsonWithMetadata.handle d topic = .ok (some
        { topic := none
          partition := none
          key := some ⟨.string, d.message.key⟩
          value := some ⟨.json, bytes⟩
          timestamp := none }) ∧
      Utf8.decode? bytes = some text ∧
      (d.message.kind ≠ .mutation → content = .null) ∧
      (d.message.kind = .mutation → ∀ v, Json.ofBytes? d.message.content = some v → content = v) ∧
      (d.message.kind = .mutation → Json.ofBytes? d.message.content = none →
        content = .str (Utf8.decodeLossy d.message.content)) ∧
      content.depth ≤ 127 ∧
      (content.depth < 127 → Json.ofBytes? bytes = some (.obj [
        ("bucket", .str d.bucket),
        ("bySeqno", .int d.message.seqno.toNat),
        ("cas", .int d.message.cas.toNat),
        ("content", content),
        ("event", .str d.message.kind.name),
        ("key", .str (Utf8.decodeLossy d.message.key)),
        ("partition", .int d.message.partition.toNat),
        ("revSeqno", .int d.message.revision.toNat),
        ("vBucketUuid", .int d.epoch.toNat)])) ∧
      (content.depth = 127 →
        Json.ofBytes? bytes = none ∧ d.message.kind = .mutation ∧
          Nested 127 d.message.content) := by
  have hs := sound_contentValue d.message
  have hc := exact_contentValue h
  refine ⟨_, _, contentValue d.message, rfl, Utf8.decode?_encode _, contentValue_of_ne_mutation,
    ?_, ?_, hs.depth_le, ?_, ?_⟩
  · intro hk v hv
    exact contentValue_of_ofBytes? hk hv
  · intro hk hv
    rw [contentValue_of_mutation hk, hv]
    rfl
  · intro hd
    have hlt : (contentValue d.message).depth < maxDepth := hd
    rw [ofBytes?_envelope hc, if_pos hlt, envelope_eq]
  · intro hd
    rw [ofBytes?_envelope hc, if_neg (by rw [hd]; decide)]
    exact ⟨rfl, nested_of_depth_contentValue hd⟩

/-- The metadata stands beside the content. -/
theorem envelope_read_back_array :
    let content := Utf8.encode "[7]"
    let d : DocumentEvent :=
      ⟨⟨.mutation, 12, 34, 2, 18446744073709551615, Utf8.encode "airline_10", content, none⟩,
        "travel", 9⟩
    (∀ v, Json.ofBytes? content = some v → v.integral) ∧
      ∃ bytes, rawJsonWithMetadata.handle d "travel-topic" =
          .ok (some (keyed d (some ⟨.json, bytes⟩))) ∧
        Json.ofBytes? bytes = some (.obj [
          ("bucket", .str "travel"),
          ("bySeqno", .int 34),
          ("cas", .int 18446744073709551615),
          ("content", .arr [.int 7]),
          ("event", .str "mutation"),
          ("key", .str "airline_10"),
          ("partition", .int 12),
          ("revSeqno", .int 2),
          ("vBucketUuid", .int 9)]) := by
  intro content d
  have hcontent : Json.ofBytes? content = some (.arr [.int 7]) := by rfl
  have hi : ∀ v, Json.ofBytes? content = some v → v.integral := by
    intro v hv
    obtain rfl := Option.some.inj (hcontent.symm.trans hv)
    rfl
  obtain ⟨bytes, _, value, hr, -, -, hvalue, -, -, hback, -⟩ :=
    envelope_read_back d "travel-topic" fun _ => hi
  obtain rfl : value = _ := hvalue rfl _ hcontent
  refine ⟨hi, bytes, hr, (hback (by decide)).trans ?_⟩
  rfl

/-- The octets may be nested deeper than the value that they hold, as a later member replaces an
earlier one of the same key. -/
theorem envelope_read_back_replaced :
    let content := Utf8.encode (String.ofList ("\x7b\"a\":".toList ++ List.replicate 126 '[' ++
      List.replicate 126 ']' ++ ",\"a\":0\x7d".toList))
    let d : DocumentEvent :=
      ⟨⟨.mutation, 0, 1, 0, 0, Utf8.encode "doc-1", content, none⟩, "travel", 1000⟩
    Nested 127 content ∧ Json.ofBytes? content = some (.obj [("a", .int 0)]) ∧
      ∃ bytes, rawJsonWithMetadata.handle d "travel-topic" =
          .ok (some (keyed d (some ⟨.json, bytes⟩))) ∧
        Json.ofBytes? bytes = some (envelope d) := by
  intro content
  have hm : ∀ m ∈ [("a", nest 125), ("a", .int 0)], Exact m.2 := by
    simp only [List.forall_mem_cons]
    exact ⟨exact_nest 125, .int (by decide) (by decide), fun m hm => by cases hm⟩
  have hdepth : depthMembers [("a", nest 125), ("a", .int 0)] = 126 := by
    rw [depthMembers, depth_nest]
    rfl
  have hw (as bs : List Char) : "\x7b\"a\":".toList ++ as ++ bs ++ ",\"a\":0\x7d".toList =
      '\x7b' :: (writeString "a" ++ ':' :: (as ++ bs) ++
        ',' :: (writeString "a" ++ ':' :: write (.int 0))) ++ ['\x7d'] := by
    simp [writeString, writeChar, write, writeInt]
  have hread (n : Nat) : parseWithin n ("\x7b\"a\":".toList ++ List.replicate 126 '[' ++
      List.replicate 126 ']' ++ ",\"a\":0\x7d".toList) =
      if 127 ≤ n then some (.obj [("a", .int 0)]) else none := by
    rw [hw, ← write_nest 125]
    exact (parseWithin_members hm).trans (by rw [hdepth]; rfl)
  have hcontent : Json.ofBytes? content = some (.obj [("a", .int 0)]) := by
    rw [Json.ofBytes?, Utf8.decode?_encode, Option.bind_some, parse?, String.toList_ofList]
    exact hread 127
  have hnested : Nested 127 content := by
    refine ⟨_, Utf8.decode?_encode _, ?_, ?_⟩
    · rw [String.toList_ofList, hread]
      rfl
    · intro n hn
      rw [String.toList_ofList, hread, if_neg (Nat.not_le.2 hn)]
  -- the octets of the content are not looked at any more
  clear_value content
  intro d
  have hv : contentValue d.message = .obj [("a", .int 0)] := contentValue_of_ofBytes? rfl hcontent
  have hint : Exact (.int 0) := .int (by decide) (by decide)
  have he : Exact (contentValue d.message) :=
    hv ▸ .obj (List.pairwise_singleton _ _) (List.forall_mem_singleton.2 hint)
  refine ⟨hnested, hcontent, _, rfl, ?_⟩
  rw [ofBytes?_envelope he, hv]
  rfl

end ChangeFeed.Handler
