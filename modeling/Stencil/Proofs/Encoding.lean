import Stencil.Proofs.Occurrence

/-!
# Texts as bytes

The bytes of a text in UTF-8, offsets into them, and searching and cutting by offsets. A slice does
not exist where its ends are out of order, out of range or within a character (`sliceBytes?`).

In UTF-8 no byte that begins a character lies within another one. So a text is found among the bytes
of another one where it is found among its characters (`findBytes?_bytes`), and slices between such
places exist (`sliceBytes?_of_split`).
-/

namespace Stencil.Text

/-! ### Bytes -/

def bytes (s : List Char) : List UInt8 := s.flatMap String.utf8EncodeChar

/-- The bytes of a text. -/
def octets (s : String) : List UInt8 := s.toByteArray.data.toList

/-- Whether an offset into bytes is at one of their ends or in front of a character. -/
def isBoundary (b : List UInt8) (i : Nat) : Bool :=
  i == 0 || i == b.length || b[i]?.any fun byte => decide byte.IsUTF8FirstByte

/-- The bytes from one offset to another. -/
def sliceBytes? (b : List UInt8) (i j : Nat) : Option (List UInt8) :=
  if i ≤ j ∧ j ≤ b.length ∧ isBoundary b i = true ∧ isBoundary b j = true then
    some ((b.take j).drop i)
  else none

/-- The offset of the first occurrence of bytes in others. -/
def findBytes? (needle : List UInt8) : List UInt8 → Option Nat
  | [] => if needle.isEmpty then some 0 else none
  | byte :: rest =>
    if needle.isPrefixOf (byte :: rest) then some 0 else (findBytes? needle rest).map (· + 1)

variable {s p q e : List Char} {c : Char}

@[simp] theorem bytes_nil : bytes [] = [] := rfl

theorem bytes_cons (c : Char) (s : List Char) :
    bytes (c :: s) = String.utf8EncodeChar c ++ bytes s := List.flatMap_cons

@[simp] theorem bytes_append (s t : List Char) : bytes (s ++ t) = bytes s ++ bytes t :=
  List.flatMap_append

theorem octets_eq (s : String) : octets s = bytes s.toList := by
  rw [octets, ← String.utf8Encode_toList, List.utf8Encode, List.toList_data_toByteArray]
  rfl

@[simp] theorem byteLength_nil : byteLength [] = 0 := rfl

theorem byteLength_cons (c : Char) (s : List Char) :
    byteLength (c :: s) = c.utf8Size + byteLength s := by
  rw [byteLength, List.foldl_cons, foldl_utf8Size, Nat.zero_add]

@[simp] theorem length_bytes (s : List Char) : (bytes s).length = byteLength s := by
  induction s with
  | nil => rfl
  | cons c s ih =>
    rw [bytes_cons, List.length_append, String.length_utf8EncodeChar, ih, byteLength_cons]

theorem byteLength_pos (h : s ≠ []) : 0 < byteLength s := by
  obtain ⟨c, s, rfl⟩ := List.exists_cons_of_ne_nil h
  rw [byteLength_cons]
  have hc := c.utf8Size_pos
  omega

@[simp] theorem bytes_eq_nil_iff : bytes s = [] ↔ s = [] := by
  constructor
  · intro h
    by_contra hne
    have hpos := byteLength_pos hne
    rw [← length_bytes, h] at hpos
    cases hpos
  · rintro rfl
    rfl

theorem isEmpty_bytes (s : List Char) : (bytes s).isEmpty = s.isEmpty := by
  rw [Bool.eq_iff_iff, List.isEmpty_iff, List.isEmpty_iff, bytes_eq_nil_iff]

/-! ### Characters among bytes -/

/-- A character begins with a byte that begins one, and its other bytes begin none. -/
theorem exists_encoded (c : Char) : ∃ lead rest, String.utf8EncodeChar c = lead :: rest ∧
    lead.IsUTF8FirstByte ∧ ∀ byte ∈ rest, ¬ byte.IsUTF8FirstByte := by
  have hindex := @UInt8.isUTF8FirstByte_getElem_utf8EncodeChar c
  cases hc : String.utf8EncodeChar c with
  | nil =>
    have hlength := String.length_utf8EncodeChar c
    have hpos := c.utf8Size_pos
    rw [hc, List.length_nil] at hlength
    omega
  | cons lead rest =>
    simp only [hc] at hindex
    refine ⟨lead, rest, rfl, ?_, ?_⟩
    · exact (@hindex 0 (by simp)).2 rfl
    · intro byte hbyte hfirst
      obtain ⟨i, hi, rfl⟩ := List.mem_iff_getElem.1 hbyte
      have hzero := (@hindex (i + 1) (by simpa using hi)).1 hfirst
      omega

/-- What comes behind a character does not change which one it is. -/
theorem eq_of_encoded_append {c c' : Char} {x y : List UInt8}
    (h : String.utf8EncodeChar c ++ x = String.utf8EncodeChar c' ++ y) : c = c' := by
  have hdecode (c : Char) (x : List UInt8) :
      (String.utf8EncodeChar c ++ x).toByteArray.utf8DecodeChar? 0 = some c := by
    rw [List.toByteArray_append]
    exact ByteArray.utf8DecodeChar?_utf8EncodeChar_append
  have hsame := hdecode c x
  rw [h, hdecode c' y] at hsame
  exact (Option.some.inj hsame).symm

theorem bytes_prefix_iff : bytes p <+: bytes s ↔ p <+: s := by
  constructor
  · intro h
    induction p generalizing s with
    | nil => exact List.nil_prefix
    | cons c p ih =>
      obtain ⟨rest, hrest⟩ := h
      cases s with
      | nil =>
        have hnil := (List.append_eq_nil_iff.1 hrest).1
        exact absurd (bytes_eq_nil_iff.1 hnil) (List.cons_ne_nil c p)
      | cons c' s =>
        rw [bytes_cons, bytes_cons, List.append_assoc] at hrest
        obtain rfl := eq_of_encoded_append hrest
        exact List.cons_prefix_cons.2 ⟨rfl, ih ⟨rest, List.append_cancel_left hrest⟩⟩
  · rintro ⟨rest, rfl⟩
    exact ⟨bytes rest, (bytes_append p rest).symm⟩

/-- In front of a byte that begins a character lie whole characters. -/
theorem exists_split_of_lead {x y : List UInt8} {lead : UInt8} (hlead : lead.IsUTF8FirstByte)
    (h : bytes s = x ++ lead :: y) : ∃ p q, s = p ++ q ∧ bytes p = x ∧ bytes q = lead :: y := by
  induction s generalizing x with
  | nil => simp at h
  | cons c s ih =>
    obtain ⟨first, rest, hc, -, hrest⟩ := exists_encoded c
    cases x with
    | nil => exact ⟨[], c :: s, rfl, rfl, h⟩
    | cons byte x =>
      rw [bytes_cons, hc, List.cons_append, List.cons_append, List.cons.injEq] at h
      obtain ⟨rfl, h⟩ := h
      rcases List.append_eq_append_iff.1 h with ⟨x', rfl, hx'⟩ | ⟨y', rfl, hy'⟩
      · obtain ⟨p, q, rfl, rfl, hq⟩ := ih hx'
        exact ⟨c :: p, q, rfl, by rw [bytes_cons, hc, List.cons_append], hq⟩
      · -- the byte would lie within the character
        cases y' with
        | nil =>
          rw [List.append_nil] at hc
          exact ⟨[c], s, rfl, by rw [bytes_cons, hc, bytes_nil, List.append_nil], hy'.symm⟩
        | cons byte' y' =>
          obtain ⟨rfl, -⟩ := List.cons.inj hy'
          exact absurd hlead (hrest lead (by simp))

theorem bytes_inj : bytes p = bytes q ↔ p = q := by
  constructor
  · intro h
    have hpq : p <+: q := bytes_prefix_iff.1 (h ▸ List.prefix_rfl)
    have hqp : q <+: p := bytes_prefix_iff.1 (h ▸ List.prefix_rfl)
    exact hpq.eq_of_length_le hqp.length_le
  · rintro rfl
    rfl

theorem bytes_suffix_iff : bytes e <:+ bytes s ↔ e <:+ s := by
  constructor
  · rintro ⟨x, hx⟩
    cases e with
    | nil => exact List.nil_suffix
    | cons c e =>
      obtain ⟨lead, rest, hc, hlead, -⟩ := exists_encoded c
      have hce : bytes (c :: e) = lead :: (rest ++ bytes e) := by
        rw [bytes_cons, hc, List.cons_append]
      obtain ⟨p, q, rfl, -, hq⟩ := exists_split_of_lead hlead (hce ▸ hx.symm)
      rw [bytes_inj.1 (hq.trans hce.symm)]
      exact List.suffix_append p (c :: e)
  · rintro ⟨t, rfl⟩
    exact ⟨bytes t, (bytes_append t e).symm⟩

/-! ### Searching -/

theorem findBytes?_of_prefix {needle b : List UInt8} (h : needle <+: b) :
    findBytes? needle b = some 0 := by
  cases b with
  | nil => rw [List.prefix_nil.1 h]; rfl
  | cons byte b => rw [findBytes?, if_pos (List.isPrefixOf_iff_prefix.2 h)]

/-- A search for characters passes bytes that begin none. -/
theorem findBytes?_append {lead : UInt8} {needle rest b : List UInt8}
    (hlead : lead.IsUTF8FirstByte) (hrest : ∀ byte ∈ rest, ¬ byte.IsUTF8FirstByte) :
    findBytes? (lead :: needle) (rest ++ b) =
      (findBytes? (lead :: needle) b).map (· + rest.length) := by
  induction rest with
  | nil => simp
  | cons byte rest ih =>
    obtain ⟨hbyte, hrest⟩ := List.forall_mem_cons.1 hrest
    have hskip : ¬ (lead :: needle).isPrefixOf (byte :: (rest ++ b)) = true := by
      rw [List.isPrefixOf_iff_prefix, List.cons_prefix_cons]
      rintro ⟨rfl, -⟩
      exact hbyte hlead
    rw [List.cons_append, findBytes?, if_neg hskip, ih hrest, Option.map_map]
    rfl

/-- **A text is found among bytes where it is found among characters.** -/
theorem findBytes?_bytes (needle s : List Char) :
    findBytes? (bytes needle) (bytes s) = (splitFirst needle s).map fun p => byteLength p.1 := by
  cases needle with
  | nil =>
    have hfirst : splitFirst [] s = some ([], s) := splitFirst_eq_some_iff.2 (FirstAt.front [] s)
    rw [hfirst]
    exact findBytes?_of_prefix List.nil_prefix
  | cons c needle =>
    induction s with
    | nil =>
      obtain ⟨lead, rest, hc, -, -⟩ := exists_encoded c
      rw [bytes_cons, hc]
      rfl
    | cons a s ih =>
      rw [splitFirst_cons]
      split
      · next hprefix => exact findBytes?_of_prefix (bytes_prefix_iff.2 hprefix)
      · next hprefix =>
        have hskip := mt bytes_prefix_iff.1 hprefix
        obtain ⟨lead, rest, hc, hlead, -⟩ := exists_encoded c
        obtain ⟨first, others, ha, -, hothers⟩ := exists_encoded a
        have hsize := String.length_utf8EncodeChar a
        rw [ha, List.length_cons] at hsize
        rw [← List.isPrefixOf_iff_prefix] at hskip
        rw [bytes_cons a, ha, List.cons_append] at hskip ⊢
        rw [findBytes?, if_neg hskip]
        rw [bytes_cons c, hc, List.cons_append] at ih ⊢
        rw [findBytes?_append hlead hothers, ih]
        simp only [Option.map_map]
        congr 1
        funext p
        simp only [Function.comp_apply, byteLength_cons]
        omega

/-! ### Slices -/

/-- Between two characters there is a boundary. -/
theorem isBoundary_bytes (p q : List Char) : isBoundary (bytes (p ++ q)) (byteLength p) = true := by
  cases q with
  | nil => simp [isBoundary]
  | cons c q =>
    obtain ⟨lead, rest, hc, hlead, -⟩ := exists_encoded c
    have hindex : (bytes (p ++ c :: q))[byteLength p]? = some lead := by
      rw [bytes_append, bytes_cons, hc, List.getElem?_append_right (Nat.le_of_eq (length_bytes p)),
        length_bytes, Nat.sub_self]
      rfl
    simp only [isBoundary, hindex, Option.any_some, hlead, decide_true, Bool.or_true]

/-- The slice between two places in a text. -/
theorem sliceBytes?_of_split {m : List Char} {i j : Nat} (h : s = p ++ m ++ q)
    (hi : i = byteLength p) (hj : j = byteLength p + byteLength m) :
    sliceBytes? (bytes s) i j = some (bytes m) := by
  subst h hi hj
  have hstart : isBoundary (bytes (p ++ m ++ q)) (byteLength p) = true := by
    rw [List.append_assoc]
    exact isBoundary_bytes p (m ++ q)
  have hstop : isBoundary (bytes (p ++ m ++ q)) (byteLength p + byteLength m) = true := by
    rw [← byteLength_append]
    exact isBoundary_bytes (p ++ m) q
  have hle : byteLength p + byteLength m ≤ (bytes (p ++ m ++ q)).length := by
    rw [length_bytes, byteLength_append, byteLength_append]
    omega
  rw [sliceBytes?, if_pos ⟨Nat.le_add_right _ _, hle, hstart, hstop⟩, bytes_append, bytes_append,
    ← byteLength_append, ← length_bytes (p ++ m), bytes_append, List.take_left, ← length_bytes p,
    List.drop_left]

/-- The slice up to a place in a text. -/
theorem sliceBytes?_before {m : List Char} (h : s = m ++ q) :
    sliceBytes? (bytes s) 0 (byteLength m) = some (bytes m) :=
  sliceBytes?_of_split (p := []) h rfl (Nat.zero_add _).symm

/-- The slice from a place in a text on. -/
theorem sliceBytes?_behind {m : List Char} {i : Nat} (h : s = p ++ m) (hi : i = byteLength p) :
    sliceBytes? (bytes s) i (byteLength s) = some (bytes m) := by
  have hend : byteLength s = byteLength p + byteLength m := by rw [h, byteLength_append]
  exact sliceBytes?_of_split (q := []) (by rw [h, List.append_nil]) hi hend

end Stencil.Text
