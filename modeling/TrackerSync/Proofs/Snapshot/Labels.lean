import Mathlib.Data.List.Sort
import TrackerSync.Proofs.Snapshot.Writes

/-!
The law of canonical labels: the trimmed non-empty labels, each once, in strictly increasing
order, which is also the order of their UTF-8 bytes.
-/

namespace List

variable {α : Type} [LT α]

theorem append_lt_append_of_not_prefix {a b x y : List α} (lt : a < b) (notPrefix : ¬ a <+: b) :
    a ++ x < b ++ y := by
  induction lt with
  | nil => exact absurd List.nil_prefix notPrefix
  | cons _ ih => exact .cons (ih fun tail => notPrefix ((List.prefix_cons_inj _).mpr tail))
  | rel head => exact .rel head

theorem append_lt_append_left_iff [Std.Irrefl (· < · : α → α → Prop)] (a : List α) {x y : List α} :
    a ++ x < a ++ y ↔ x < y := by
  induction a with
  | nil => rfl
  | cons c rest ih => rw [cons_append, cons_append, cons_lt_cons_self, ih]

end List

namespace TrackerSync

namespace Text

theorem toNat_lt_of_char (c : Char) : c.toNat < 0x110000 := by
  have valid := c.valid
  simp only [UInt32.isValidChar, Nat.isValidChar] at valid
  change c.val.toNat < _
  omega

/-- A character's UTF-8 bytes come before those of a larger character, and are no prefix of
them. -/
theorem utf8EncodeChar_lt {c d : Char} (lt : c < d) :
    String.utf8EncodeChar c < String.utf8EncodeChar d ∧
      ¬ String.utf8EncodeChar c <+: String.utf8EncodeChar d := by
  have cValid := toNat_lt_of_char c
  have dValid := toNat_lt_of_char d
  have order : c.toNat < d.toNat := lt
  simp only [String.utf8EncodeChar, ← Char.toNat.eq_def]
  -- one case for each pair of encoded lengths; every byte is below 256
  split_ifs <;> simp (disch := omega) [List.cons_lt_cons_iff, UInt8.lt_iff_toNat_lt, UInt8.ext_iff,
    UInt8.toNat_ofNat, Nat.mod_eq_of_lt] <;> omega

theorem flatMap_utf8EncodeChar_lt_iff (l₁ l₂ : List Char) :
    l₁.flatMap String.utf8EncodeChar < l₂.flatMap String.utf8EncodeChar ↔ l₁ < l₂ := by
  induction l₁ generalizing l₂ with
  | nil =>
    cases l₂ with
    | nil => simp
    | cons d rest =>
      obtain ⟨b, bs, written⟩ := List.exists_cons_of_ne_nil (String.utf8EncodeChar_ne_nil (c := d))
      simp [written]
  | cons c rest ih =>
    cases l₂ with
    | nil => simp
    | cons d rest' =>
      rw [List.flatMap_cons, List.flatMap_cons]
      rcases Nat.lt_trichotomy c.toNat d.toNat with before | same | after
      · have before : c < d := before
        obtain ⟨lt, notPrefix⟩ := utf8EncodeChar_lt before
        exact ⟨fun _ => .rel before, fun _ => List.append_lt_append_of_not_prefix lt notPrefix⟩
      · cases Char.toNat_inj.mp same
        rw [List.append_lt_append_left_iff, List.cons_lt_cons_self, ih]
      · -- the larger character comes first, so both comparisons go the other way
        have after : d < c := after
        obtain ⟨lt, notPrefix⟩ := utf8EncodeChar_lt after
        have reverse := List.append_lt_append_of_not_prefix (x := rest'.flatMap String.utf8EncodeChar)
          (y := rest.flatMap String.utf8EncodeChar) lt notPrefix
        exact ⟨fun forward => absurd reverse (List.lt_asymm forward),
          fun forward => absurd (List.Lex.rel after) (List.lt_asymm forward)⟩

theorem toUTF8_lt_iff (a b : String) : a.toUTF8.data.toList < b.toUTF8.data.toList ↔ a < b := by
  have bytes : ∀ s : String, s.toUTF8.data.toList = s.toList.flatMap String.utf8EncodeChar :=
    fun s => by
      rw [← String.ofList_toList (s := s), String.toUTF8_eq_toByteArray, String.toByteArray_ofList,
        List.utf8Encode, List.toList_data_toByteArray, String.toList_ofList]
  rw [bytes, bytes, flatMap_utf8EncodeChar_lt_iff]
  rfl

end Text

theorem mem_dedupAdjacent_of_mem {labels : List String} {l : String} (mem : l ∈ labels) :
    l ∈ dedupAdjacent labels := by
  fun_induction dedupAdjacent labels with
  | case1 a b rest same ih =>
    -- `a` is dropped only as a repeat of `b`, which stays
    rcases List.mem_cons.mp mem with here | later
    · exact ih (here ▸ (beq_iff_eq.mp same) ▸ List.mem_cons_self ..)
    · exact ih later
  | case2 a b rest _ ih =>
    rcases List.mem_cons.mp mem with here | later
    · exact here ▸ List.mem_cons_self ..
    · exact List.mem_cons_of_mem a (ih later)
  | case3 => exact mem

/-- A label is canonical exactly when it is a trimmed label that is not empty. -/
theorem mem_canonicalLabels_iff {labels : List String} {l : String} :
    l ∈ canonicalLabels labels ↔ ∃ x ∈ labels, Text.trim x = l ∧ l ≠ "" := by
  refine ⟨fun mem => ?_, fun ⟨x, listed, trimmed, present⟩ => ?_⟩
  · obtain ⟨⟨x, listed, trimmed⟩, present⟩ := mem_canonicalLabels mem
    exact ⟨x, listed, trimmed, present⟩
  · have kept : l ∈ (labels.map Text.trim).filter (fun l => !l.isEmpty) :=
      List.mem_filter.mpr ⟨List.mem_map.mpr ⟨x, listed, trimmed⟩, by simpa [String.isEmpty_iff]⟩
    exact mem_dedupAdjacent_of_mem (List.mem_mergeSort.mpr kept)

theorem canonicalLabels_eq_of_mem_iff {xs ys : List String} (same : ∀ l, l ∈ ys ↔ l ∈ xs) :
    canonicalLabels ys = canonicalLabels xs := by
  refine (canonicalLabels_canonical ys).increasing.eq_of_mem_iff
    (canonicalLabels_canonical xs).increasing fun l => ?_
  simp only [mem_canonicalLabels_iff, same]

/-- Canonical labels are exactly the trimmed non-empty labels, strictly increasing in UTF-8 byte
order, so the form is idempotent and depends only on which labels occur. -/
theorem canonical_labels_law (xs : List String) :
    (canonicalLabels xs).Pairwise (fun a b => a.toUTF8.data.toList < b.toUTF8.data.toList) ∧
    (∀ l ∈ canonicalLabels xs, Text.trim l = l ∧ l ≠ "") ∧
    (∀ l, l ∈ canonicalLabels xs ↔ ∃ x ∈ xs, Text.trim x = l ∧ l ≠ "") ∧
    canonicalLabels (canonicalLabels xs) = canonicalLabels xs ∧
    ∀ ys : List String, (∀ l, l ∈ ys ↔ l ∈ xs) → canonicalLabels ys = canonicalLabels xs := by
  have canonical := canonicalLabels_canonical xs
  refine ⟨canonical.increasing.imp fun lt => (Text.toUTF8_lt_iff _ _).mpr lt,
    fun l mem => ⟨canonical.trimmed l mem, canonical.present l mem⟩,
    fun _ => mem_canonicalLabels_iff, canonicalLabels_eq_self canonical,
    fun _ same => canonicalLabels_eq_of_mem_iff same⟩

end TrackerSync
