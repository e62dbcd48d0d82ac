import SecretSync.Text.Base64

/-!
# `SecretSync.Proofs.Text.Base64`: what is written is read back

Between bytes and text stand the values of the symbols, six bits each.
`sextets` are the values that some bytes are written with, four for every
three bytes, and `padding` says what is missing from the last quad. The
writer and the reader are each described in these terms: `reverse_encodeOnto`
says that the text is the symbols of the sextets and the padding, `decode_symbols`
that such a text is read as its values, and `bytesOnto_sextets` that the
values stand for the bytes.

`decodeText_encode` is the main statement: the text of some bytes is base64
in the strict sense of the reader, and stands for these bytes.
-/

set_option autoImplicit false

namespace SecretSync.Text.Base64

/-! ### Sextets -/

/-- The values of the symbols that stand for some bytes. -/
def sextets : Bytes → List Nat
  | a :: b :: c :: rest =>
    let n := a.toNat * 65536 + b.toNat * 256 + c.toNat
    n / 262144 :: n / 4096 % 64 :: n / 64 % 64 :: n % 64 :: sextets rest
  | [a, b] =>
    let n := a.toNat * 256 + b.toNat
    [n / 1024, n / 16 % 64, n % 16 * 4]
  | [a] => [a.toNat / 4, a.toNat % 4 * 16]
  | [] => []

/-- The number of padding bytes that fill the last quad up. -/
def padding : Bytes → Nat
  | _ :: _ :: _ :: rest => padding rest
  | [_, _] => 1
  | [_] => 2
  | [] => 0

/-- The symbols of the sextets and the padding. -/
def quads (bytes : Bytes) : Bytes :=
  (sextets bytes).map symbol ++ List.replicate (padding bytes) pad

/-- The writer writes the symbols of the sextets and then the padding. -/
theorem encodeOnto_eq (acc bytes : Bytes) :
    encodeOnto acc bytes = (quads bytes).reverse ++ acc := by
  induction bytes using sextets.induct generalizing acc with
  | case1 a b c rest ih =>
    unfold encodeOnto
    rw [ih]
    simp [quads, sextets, padding]
  | case2 a b => rfl
  | case3 a => rfl
  | case4 => rfl

theorem reverse_encodeOnto (bytes : Bytes) : (encodeOnto [] bytes).reverse = quads bytes := by
  rw [encodeOnto_eq, List.append_nil, List.reverse_reverse]

theorem sextets_lt (bytes : Bytes) : ∀ v ∈ sextets bytes, v < 64 := by
  induction bytes using sextets.induct with
  | case1 a b c rest ih =>
    have ha := a.toNat_lt
    have hb := b.toNat_lt
    have hc := c.toNat_lt
    simp only [sextets, List.forall_mem_cons]
    exact ⟨by omega, by omega, by omega, by omega, ih⟩
  | case2 a b =>
    have ha := a.toNat_lt
    have hb := b.toNat_lt
    simp only [sextets, List.forall_mem_cons]
    exact ⟨by omega, by omega, by omega, List.forall_mem_nil _⟩
  | case3 a =>
    have ha := a.toNat_lt
    simp only [sextets, List.forall_mem_cons]
    exact ⟨by omega, by omega, List.forall_mem_nil _⟩
  | case4 => exact List.forall_mem_nil _

theorem padding_le (bytes : Bytes) : padding bytes ≤ 2 := by
  induction bytes using padding.induct with
  | case1 a b c rest ih => exact ih
  | case2 a b => exact Nat.le_succ 1
  | case3 a => exact Nat.le_refl 2
  | case4 => exact Nat.zero_le 2

/-- The sextets and the padding make up whole quads. -/
theorem length_sextets_add_padding (bytes : Bytes) :
    ∃ count, (sextets bytes).length + padding bytes = 4 * count ∧ (count = 0 → bytes = []) := by
  induction bytes using sextets.induct with
  | case1 a b c rest ih =>
    obtain ⟨count, hcount, -⟩ := ih
    refine ⟨count + 1, ?_, nofun⟩
    simp only [sextets, padding, List.length_cons]
    omega
  | case2 a b => exact ⟨1, rfl, nofun⟩
  | case3 a => exact ⟨1, rfl, nofun⟩
  | case4 => exact ⟨0, rfl, fun _ => rfl⟩

/-- The last sextet has zeros where it stands for no byte. -/
theorem unusedBits_getLast? (bytes : Bytes) :
    ∀ v ∈ (sextets bytes).getLast?, unusedBits (4 - padding bytes) v = 0 := by
  induction bytes using sextets.induct with
  | case1 a b c rest ih =>
    intro v hv
    cases hrest : (sextets rest).getLast? with
    | none =>
      -- This quad is the last one, and it is full.
      obtain ⟨count, hcount, hempty⟩ := length_sextets_add_padding rest
      rw [List.getLast?_eq_none_iff.1 hrest] at hcount
      have hle := padding_le rest
      obtain rfl := hempty (by simp only [List.length_nil] at hcount; omega)
      rfl
    | some last =>
      have hlast : v = last := by
        simp only [sextets, List.getLast?_cons, hrest, Option.getD_some, Option.mem_some] at hv
        exact hv.symm
      rw [hlast]
      exact ih last hrest
  | case2 a b =>
    intro v hv
    obtain rfl : (a.toNat * 256 + b.toNat) % 16 * 4 = v := Option.some.inj hv
    show (a.toNat * 256 + b.toNat) % 16 * 4 % 4 = 0
    omega
  | case3 a =>
    intro v hv
    obtain rfl : a.toNat % 4 * 16 = v := Option.some.inj hv
    show a.toNat % 4 * 16 % 16 = 0
    omega
  | case4 => intro v hv; cases hv

/-- The sextets stand for the bytes. -/
theorem bytesOnto_sextets (acc bytes : Bytes) :
    bytesOnto acc (sextets bytes) = bytes.reverse ++ acc := by
  induction bytes using sextets.induct generalizing acc with
  | case1 a b c rest ih =>
    have hc := c.toNat_lt
    have hb := b.toNat_lt
    have ha := a.toNat_lt
    unfold sextets bytesOnto
    dsimp only
    generalize hn : a.toNat * 65536 + b.toNat * 256 + c.toNat = n
    have hjoined : ((n / 262144 * 64 + n / 4096 % 64) * 64 + n / 64 % 64) * 64 + n % 64 = n := by
      omega
    have hlow : n % 256 = c.toNat := by omega
    have hmiddle : n / 256 % 256 = b.toNat := by omega
    have hhigh : n / 65536 = a.toNat := by omega
    rw [hjoined, hlow, hmiddle, hhigh, ih]
    simp
  | case2 a b =>
    have hb := b.toNat_lt
    have ha := a.toNat_lt
    unfold sextets bytesOnto
    dsimp only
    generalize hn : a.toNat * 256 + b.toNat = n
    have hjoined : (n / 1024 * 64 + n / 16 % 64) * 64 + n % 16 * 4 = n * 4 := by omega
    have hlow : n * 4 / 4 % 256 = b.toNat := by omega
    have hhigh : n * 4 / 1024 = a.toNat := by omega
    rw [hjoined, hlow, hhigh]
    simp
  | case3 a =>
    have ha := a.toNat_lt
    unfold sextets bytesOnto
    have hhigh : (a.toNat / 4 * 64 + a.toNat % 4 * 16) / 16 = a.toNat := by omega
    rw [hhigh]
    simp
  | case4 => rfl

/-! ### Symbols -/

theorem value?_symbol {v : Nat} (h : v < 64) : value? (symbol v) = some v := by
  have hall : ∀ v : Fin 64, value? (symbol v) = some v.val := by decide
  exact hall ⟨v, h⟩

theorem symbol_ne_pad {v : Nat} (h : v < 64) : symbol v ≠ pad := by
  have hall : ∀ v : Fin 64, symbol v ≠ pad := by decide
  exact hall ⟨v, h⟩

/-- Symbols are read as their values. -/
theorem symbolValues_map {values : List Nat} (h : ∀ v ∈ values, v < 64) (acc : List Nat)
    (offset : Nat) :
    symbolValues acc offset (values.map symbol) = .ok (values.reverse ++ acc) := by
  induction values generalizing acc offset with
  | nil => rfl
  | cons v rest ih =>
    rw [List.map_cons]
    unfold symbolValues
    simp only [value?_symbol (h v List.mem_cons_self)]
    rw [ih fun w hw => h w (List.mem_cons_of_mem _ hw)]
    simp

/-- Symbols at the beginning of the last quad. -/
theorem readLastQuad_map {values : List Nat} (h : ∀ v ∈ values, v < 64) (start position : Nat)
    (symbols : List (UInt8 × Nat)) (rest : Bytes) :
    readLastQuad start position ⟨symbols, 0⟩ (values.map symbol ++ rest)
      = readLastQuad start (position + values.length)
          ⟨(values.map fun v => (symbol v, v)).reverse ++ symbols, 0⟩ rest := by
  induction values generalizing position symbols with
  | nil => rfl
  | cons v values ih =>
    have hv : v < 64 := h v List.mem_cons_self
    rw [List.map_cons, List.cons_append]
    rw [readLastQuad, if_neg (symbol_ne_pad hv), if_neg (Nat.lt_irrefl 0)]
    simp only [value?_symbol hv]
    rw [ih fun w hw => h w (List.mem_cons_of_mem _ hw)]
    simp only [List.length_cons, List.map_cons, List.reverse_cons, List.append_assoc,
      List.cons_append, List.nil_append, Nat.add_assoc, Nat.add_comm 1]

/-- Padding at the end of the last quad. -/
theorem readLastQuad_replicate (start : Nat) {position : Nat} (h : 2 ≤ position)
    (symbols : List (UInt8 × Nat)) (padded count : Nat) :
    readLastQuad start position ⟨symbols, padded⟩ (List.replicate count pad)
      = .ok ⟨symbols, padded + count⟩ := by
  induction count generalizing position padded with
  | zero => rfl
  | succ count ih =>
    rw [List.replicate_succ]
    unfold readLastQuad
    rw [if_pos rfl, if_neg (Nat.not_lt.2 h), ih (Nat.le_succ_of_le h), Nat.add_assoc,
      Nat.add_comm 1]

/-! ### Reading back -/

/-- A text of whole quads has no byte too many. -/
theorem checkLoneLast_of_quads {input : Bytes} (h : input.length % 4 = 0) :
    checkLoneLast input = .ok () := by
  unfold checkLoneLast
  split
  · exact if_neg fun hlone => by omega
  · rfl

/-- Symbols with the padding that fills them up are read as their values. All quads but the last
are `front`, and the last one is `last`. -/
theorem decode_symbols {front last : List Nat} {padded : Nat} (hfront : ∀ v ∈ front, v < 64)
    (hlast : ∀ v ∈ last, v < 64) (hwhole : front.length % 4 = 0)
    (hfull : last.length + padded = 4) (hpadded : padded ≤ 2)
    (hunused : ∀ v ∈ last.getLast?, unusedBits last.length v = 0) :
    decode (front.map symbol ++ (last.map symbol ++ List.replicate padded pad))
      = .ok (bytesOnto [] (front ++ last)).reverse := by
  have hlength : (front.map symbol ++ (last.map symbol ++ List.replicate padded pad)).length
      = front.length + 4 := by
    simp only [List.length_append, List.length_map, List.length_replicate]
    omega
  generalize hinput : front.map symbol ++ (last.map symbol ++ List.replicate padded pad) = input
    at hlength ⊢
  have hstart : lastQuadStart input.length = front.length := by
    unfold lastQuadStart
    rw [if_pos (by omega)]
    omega
  have hcheck : checkLoneLast input = .ok () := checkLoneLast_of_quads (by omega)
  have hvalues : symbolValues [] 0 (input.take front.length) = .ok front.reverse := by
    rw [← hinput, List.take_left' (List.length_map _), symbolValues_map hfront, List.append_nil]
  have hquad : readLastQuad front.length 0 ⟨[], 0⟩ (input.drop front.length)
      = .ok ⟨(last.map fun v => (symbol v, v)).reverse, padded⟩ := by
    rw [← hinput, List.drop_left' (List.length_map _), readLastQuad_map hlast,
      readLastQuad_replicate _ (by omega), List.append_nil, Nat.zero_add]
  have hjoined : ((last.map fun v => (symbol v, v)).reverse.map Prod.snd ++ front.reverse).reverse
      = front ++ last := by
    simp [Function.comp_def]
  unfold decode
  rw [hcheck, hstart]
  simp only [hvalues, hquad, bind, Except.bind, List.length_reverse, List.length_map]
  rw [if_neg (by omega), if_neg (by omega), hjoined]
  cases hsymbols : (last.map fun v => (symbol v, v)).reverse with
  | nil => rfl
  | cons final earlier =>
    have hfinal : (last.map fun v => (symbol v, v)).getLast? = some final := by
      rw [← List.head?_reverse, hsymbols]
      rfl
    rw [List.getLast?_map] at hfinal
    obtain ⟨v, hv, rfl⟩ := Option.map_eq_some_iff.1 hfinal
    dsimp only
    rw [if_neg (not_not_intro (hunused v hv))]
    rfl

/-- The bytes are read back from their text. -/
theorem decode_quads (bytes : Bytes) : decode (quads bytes) = .ok bytes := by
  obtain ⟨count, hcount, hempty⟩ := length_sextets_add_padding bytes
  have hle := padding_le bytes
  have hlt := sextets_lt bytes
  cases count with
  | zero =>
    obtain rfl := hempty rfl
    rfl
  | succ count =>
    -- The last quad is what follows the first `4 * count` sextets.
    have hsplit := List.take_append_drop (4 * count) (sextets bytes)
    have hfront : ((sextets bytes).take (4 * count)).length = 4 * count := by
      rw [List.length_take]
      omega
    have hlast : ((sextets bytes).drop (4 * count)).length = 4 - padding bytes := by
      rw [List.length_drop]
      omega
    have hquads : quads bytes = ((sextets bytes).take (4 * count)).map symbol ++
        (((sextets bytes).drop (4 * count)).map symbol ++ List.replicate (padding bytes) pad) := by
      rw [← List.append_assoc, ← List.map_append, hsplit]
      rfl
    rw [hquads, decode_symbols (fun v hv => hlt v (List.mem_of_mem_take hv))
      (fun v hv => hlt v (List.mem_of_mem_drop hv)) (by omega) (by omega) hle ?_, hsplit,
      bytesOnto_sextets, List.append_nil, List.reverse_reverse]
    intro v hv
    rw [hlast]
    refine unusedBits_getLast? bytes v ?_
    rwa [List.getLast?_drop, if_neg (by omega)] at hv

/-- The bytes of an ASCII text are its characters. -/
theorem utf8_ofList_map {bytes : Bytes} (h : ∀ b ∈ bytes, b.toNat < 128) :
    utf8 (String.ofList (bytes.map fun b => Char.ofNat b.toNat)) = bytes := by
  unfold utf8
  rw [String.toList_ofList]
  induction bytes with
  | nil => rfl
  | cons b rest ih =>
    rw [List.map_cons, List.flatMap_cons, ih fun c hc => h c (List.mem_cons_of_mem _ hc)]
    have hb : ∀ b : Fin 128, String.utf8EncodeChar (Char.ofNat b) = [UInt8.ofNat b] := by decide
    have hencoded := hb ⟨b.toNat, h b List.mem_cons_self⟩
    rw [hencoded, UInt8.ofNat_toNat]
    rfl

theorem quads_ascii (bytes : Bytes) : ∀ b ∈ quads bytes, b.toNat < 128 := by
  intro b hb
  rcases List.mem_append.1 hb with hb | hb
  · obtain ⟨v, hv, rfl⟩ := List.mem_map.1 hb
    have hall : ∀ v : Fin 64, (symbol v).toNat < 128 := by decide
    exact hall ⟨v, sextets_lt bytes v hv⟩
  · obtain rfl := List.eq_of_mem_replicate hb
    decide

/-- The text of some bytes is base64 and stands for these bytes. -/
theorem decodeText_encode (bytes : Bytes) : decodeText (encode bytes) = .ok bytes := by
  unfold decodeText encode
  rw [reverse_encodeOnto, utf8_ofList_map (quads_ascii bytes)]
  exact decode_quads bytes

end SecretSync.Text.Base64
