import AeroGateway.Market.Types

/-!
# Dotted-quad addresses

The UDP publisher hands its target address to glibc's `inet_pton(AF_INET, ...)` before every
`sendto`, and `NetworkUtils::ip_to_string` prints an address with `inet_ntop(AF_INET, ...)`. The
two are modelled as glibc's `inet_pton4` and `inet_ntop4` compute them. `inet_pton4` reads four
decimal octets separated by dots, each at most 255 and without a leading zero, and nothing else:
what it accepts is exactly what `ip_to_string` prints for some address, and it reads the
printed text back as that address's bytes in network order.
-/

namespace AeroGateway.Feed

open Market

/-- The ASCII digit of `d`. -/
def digitByte (d : Nat) : UInt8 := UInt8.ofNat (48 + d)

/-- `%u` of an octet: its decimal digits, without leading zeros. -/
def octetText (n : Nat) : Bytes :=
  if n < 10 then [digitByte n]
  else if n < 100 then [digitByte (n / 10), digitByte (n % 10)]
  else [digitByte (n / 100), digitByte (n / 10 % 10), digitByte (n % 10)]

/-- glibc's `inet_ntop4`: `"%u.%u.%u.%u"` of the four bytes of the address. -/
def inetNtop4 (a b c d : UInt8) : Bytes :=
  octetText a.toNat ++ [46] ++ octetText b.toNat ++ [46] ++ octetText c.toNat ++ [46] ++
    octetText d.toNat

/-- `NetworkUtils::ip_to_string`: `inet_ntop` of `htonl(ip)`, whose bytes are the address's,
most significant first. -/
def ipToString (ip : UInt32) : Bytes :=
  inetNtop4 (UInt8.ofNat (ip.toNat / 2 ^ 24)) (UInt8.ofNat (ip.toNat / 2 ^ 16))
    (UInt8.ofNat (ip.toNat / 2 ^ 8)) (UInt8.ofNat ip.toNat)

/-- The bytes of `htonl(ip)` as they lie in a `struct in_addr`, most significant first. -/
def ipBytes (ip : UInt32) : List UInt8 :=
  [UInt8.ofNat (ip.toNat / 2 ^ 24), UInt8.ofNat (ip.toNat / 2 ^ 16),
    UInt8.ofNat (ip.toNat / 2 ^ 8), UInt8.ofNat ip.toNat]

/-- The state of `inet_pton4`'s loop: whether the octet being read has a digit, the octets
begun, the octets before the current one, and the current one, `*tp`. -/
structure PtonState where
  sawDigit : Bool
  octets : Nat
  done : List Nat
  cur : Nat
  deriving DecidableEq, Repr

/-- One character of `inet_pton4`'s loop; `none` where it returns 0. -/
def ptonStep (s : PtonState) (ch : UInt8) : Option PtonState :=
  if 48 ≤ ch.toNat ∧ ch.toNat ≤ 57 then
    let new := s.cur * 10 + (ch.toNat - 48)
    if s.sawDigit ∧ s.cur = 0 then none
    else if new > 255 then none
    else if !s.sawDigit then
      if s.octets + 1 > 4 then none else some ⟨true, s.octets + 1, s.done, new⟩
    else some { s with cur := new }
  else if ch.toNat = 46 ∧ s.sawDigit then
    if s.octets = 4 then none else some ⟨false, s.octets, s.done ++ [s.cur], 0⟩
  else none

/-- The state before the first character. -/
def PtonState.init : PtonState := ⟨false, 0, [], 0⟩

/-- glibc's `inet_pton4`, as `inet_pton(AF_INET, src, dst)` calls it on a C string: the four
bytes of the address, or `none` where it returns 0. -/
def inetPton4 (src : Bytes) : Option (List UInt8) := do
  let s ← src.foldlM ptonStep PtonState.init
  if s.octets < 4 then none else some ((s.done ++ [s.cur]).map UInt8.ofNat)

/-! ## Printing -/

theorem toNat_ofNat_octet {n : Nat} (h : n ≤ 255) : (UInt8.ofNat n).toNat = n :=
  UInt8.toNat_ofNat_of_lt (by simp only [UInt8.size]; omega)

theorem toNat_le_255 (x : UInt8) : x.toNat ≤ 255 := Nat.le_of_lt_succ x.toNat_lt_size

theorem toNat_digitByte {d : Nat} (h : d < 10) : (digitByte d).toNat = 48 + d :=
  toNat_ofNat_octet (by omega)

/-- Reading one more digit into an octet appends it to the octet's text. -/
theorem octetText_snoc {c d : Nat} (hd : d < 10) (hc : 0 < c) (h : c * 10 + d ≤ 255) :
    octetText (c * 10 + d) = octetText c ++ [digitByte d] := by
  have h₁ : (c * 10 + d) / 10 = c := by omega
  have h₂ : (c * 10 + d) % 10 = d := by omega
  have h₃ : (c * 10 + d) / 100 = c / 10 := by omega
  have h₄ : (c * 10 + d) / 10 % 10 = c % 10 := by omega
  unfold octetText
  split_ifs <;> first | omega | simp only [h₁, h₂, h₃, h₄, List.cons_append, List.nil_append]

theorem octetText_ne_nil (n : Nat) : octetText n ≠ [] := by
  unfold octetText
  split_ifs <;> simp

/-! ## Reading an address back -/

/-- The text a loop state stands for: each finished octet with its dot, then the current one
once it has a digit. -/
def PtonState.text (s : PtonState) : Bytes :=
  s.done.flatMap (octetText · ++ [46]) ++ if s.sawDigit then octetText s.cur else []

/-- What holds between characters: every octet read is at most 255, a fresh octet is 0, at
most three octets are finished, and the count of octets begun is the finished ones and the
current one. -/
structure PtonState.Valid (s : PtonState) : Prop where
  done_le : ∀ n ∈ s.done, n ≤ 255
  cur_le : s.cur ≤ 255
  fresh : s.sawDigit = false → s.cur = 0
  done_length : s.done.length ≤ 3
  octets_eq : s.octets = s.done.length + if s.sawDigit then 1 else 0

theorem PtonState.valid_init : PtonState.init.Valid :=
  ⟨nofun, Nat.zero_le _, fun _ => rfl, Nat.zero_le _, rfl⟩

/-- Each character the loop accepts keeps the invariant and extends the text by itself. -/
theorem ptonStep_text {s s' : PtonState} {ch : UInt8} (hv : s.Valid) (h : ptonStep s ch = some s') :
    s'.Valid ∧ s'.text = s.text ++ [ch] := by
  have hch := toNat_le_255 ch
  unfold ptonStep at h
  by_cases hd : 48 ≤ ch.toNat ∧ ch.toNat ≤ 57
  · have hch' : ch = digitByte (ch.toNat - 48) :=
      UInt8.toNat.inj (by rw [toNat_digitByte (by omega)]; omega)
    rw [if_pos hd] at h
    dsimp only at h
    split_ifs at h with hz hn hs ho <;> cases h
    · -- the first digit of an octet
      have hs' : s.sawDigit = false := by simpa using hs
      have hc : s.cur = 0 := hv.fresh hs'
      refine ⟨⟨hv.done_le, by dsimp only; omega, nofun, hv.done_length, ?_⟩, ?_⟩
      · simp [hv.octets_eq, hs']
      · simp only [PtonState.text, hs', hc, Nat.zero_mul, Nat.zero_add, if_true, if_false,
          Bool.false_eq_true, List.append_nil]
        rw [octetText, if_pos (by omega), ← hch']
    · -- a later digit
      have hs' : s.sawDigit = true := by simpa using hs
      have hc : 0 < s.cur := Nat.pos_of_ne_zero fun h0 => hz ⟨hs', h0⟩
      refine ⟨⟨hv.done_le, by dsimp only; omega, by simp [hs'], hv.done_length, hv.octets_eq⟩, ?_⟩
      simp only [PtonState.text, hs', if_true, List.append_assoc]
      rw [octetText_snoc (by omega) hc (by omega), ← hch']
  · -- a dot after an octet
    rw [if_neg hd] at h
    split_ifs at h with hdot h4
    cases h
    have hs' : s.sawDigit = true := hdot.2
    have hoct := hv.octets_eq
    have hdl := hv.done_length
    simp only [hs', if_true] at hoct
    refine ⟨⟨fun n hn => ?_, Nat.zero_le _, fun _ => rfl, ?_, ?_⟩, ?_⟩
    · rcases List.mem_append.mp hn with hn | hn
      · exact hv.done_le n hn
      · rw [List.mem_singleton.mp hn]; exact hv.cur_le
    · simp only [List.length_append, List.length_singleton]; omega
    · simp only [List.length_append, List.length_singleton, Bool.false_eq_true, if_false]; omega
    · have hch : ch = 46 := UInt8.toNat.inj hdot.1
      simp only [PtonState.text, hs', if_true, Bool.false_eq_true, if_false, List.flatMap_append,
        List.flatMap_singleton, List.append_nil, List.append_assoc, hch]

theorem foldlM_ptonStep_text :
    ∀ (src : Bytes) {s s' : PtonState}, s.Valid → src.foldlM ptonStep s = some s' →
      s'.Valid ∧ s'.text = s.text ++ src
  | [], _, _, hv, h => by cases h; exact ⟨hv, (List.append_nil _).symm⟩
  | ch :: src, s, s', hv, h => by
    rw [List.foldlM_cons] at h
    obtain ⟨t, ht, h⟩ := Option.bind_eq_some.mp h
    have ⟨htv, htt⟩ := ptonStep_text hv ht
    have ⟨hv', ht'⟩ := foldlM_ptonStep_text src htv h
    exact ⟨hv', by rw [ht', htt, List.append_assoc, List.singleton_append]⟩

/-- What `inet_pton4` accepts is a printed address: four octets, each at most 255, written
without leading zeros and separated by single dots, and nothing else. -/
theorem inetPton4_sound {src : Bytes} {addr : List UInt8} (h : inetPton4 src = some addr) :
    ∃ a b c d : UInt8, addr = [a, b, c, d] ∧ src = inetNtop4 a b c d := by
  simp only [inetPton4] at h
  obtain ⟨s, hs, h⟩ := Option.bind_eq_some.mp h
  split_ifs at h with h4
  cases h
  have ⟨hv, ht⟩ := foldlM_ptonStep_text src PtonState.valid_init hs
  have hoct := hv.octets_eq
  have hdl := hv.done_length
  have hsaw : s.sawDigit = true := by
    cases hs' : s.sawDigit
    · simp only [hs', Bool.false_eq_true, if_false] at hoct; omega
    · rfl
  have hlen : s.done.length = 3 := by simp only [hsaw, if_true] at hoct; omega
  obtain ⟨a, b, c, hd⟩ : ∃ a b c, s.done = [a, b, c] := by
    match hd : s.done, hlen with
    | [a, b, c], _ => exact ⟨a, b, c, rfl⟩
  have hle := hv.done_le
  rw [hd] at hle
  refine ⟨UInt8.ofNat a, UInt8.ofNat b, UInt8.ofNat c, UInt8.ofNat s.cur, by simp [hd], ?_⟩
  replace ht : s.text = src := ht
  rw [← ht, PtonState.text, hd, hsaw, if_pos rfl, inetNtop4, toNat_ofNat_octet (hle a (by simp)),
    toNat_ofNat_octet (hle b (by simp)), toNat_ofNat_octet (hle c (by simp)),
    toNat_ofNat_octet hv.cur_le]
  simp

/-! ## Printing and reading back -/

theorem foldlM_ptonStep_cons {s t : PtonState} {ch : UInt8} (h : ptonStep s ch = some t)
    (rest : Bytes) : (ch :: rest).foldlM ptonStep s = rest.foldlM ptonStep t := by
  rw [List.foldlM_cons, h]
  rfl

theorem ptonStep_first (s : PtonState) {d : Nat} (hd : d < 10) (hs : s.sawDigit = false)
    (hc : s.cur = 0) (ho : s.octets < 4) :
    ptonStep s (digitByte d) = some ⟨true, s.octets + 1, s.done, d⟩ := by
  simp only [ptonStep, toNat_digitByte hd, hs, hc]
  rw [if_pos (by omega)]
  simp only [Bool.false_eq_true, false_and, if_false, Nat.zero_mul, Nat.zero_add, Bool.not_false,
    if_true]
  rw [if_neg (by omega), if_neg (by omega)]
  congr 2
  omega

theorem ptonStep_next (s : PtonState) {d : Nat} (hd : d < 10) (hs : s.sawDigit = true)
    (hc : 0 < s.cur) (hle : s.cur * 10 + d ≤ 255) :
    ptonStep s (digitByte d) = some { s with cur := s.cur * 10 + d } := by
  simp only [ptonStep, toNat_digitByte hd, hs]
  rw [if_pos (by omega), if_neg (by omega), if_neg (by omega)]
  simp only [Bool.not_true, Bool.false_eq_true, if_false]
  congr 3
  omega

/-- The loop reads an octet's text into a fresh octet. -/
theorem foldlM_octetText (s : PtonState) {n : Nat} (hn : n ≤ 255) (hs : s.sawDigit = false)
    (hc : s.cur = 0) (ho : s.octets < 4) (rest : Bytes) :
    (octetText n ++ rest).foldlM ptonStep s =
      rest.foldlM ptonStep ⟨true, s.octets + 1, s.done, n⟩ := by
  unfold octetText
  split_ifs with h₁ h₂
  · exact foldlM_ptonStep_cons (ptonStep_first s h₁ hs hc ho) rest
  · have hn' : n / 10 * 10 + n % 10 = n := by omega
    rw [List.cons_append, List.singleton_append,
      foldlM_ptonStep_cons (ptonStep_first s (by omega) hs hc ho),
      foldlM_ptonStep_cons (ptonStep_next _ (by omega) rfl (by dsimp only; omega)
        (by dsimp only; omega))]
    simp only [hn']
  · have hn₁ : n / 100 * 10 + n / 10 % 10 = n / 10 := by omega
    have hn₂ : n / 10 * 10 + n % 10 = n := by omega
    rw [List.cons_append, List.cons_append, List.singleton_append,
      foldlM_ptonStep_cons (ptonStep_first s (by omega) hs hc ho),
      foldlM_ptonStep_cons (ptonStep_next _ (by omega) rfl (by dsimp only; omega)
        (by dsimp only; omega))]
    simp only [hn₁]
    rw [foldlM_ptonStep_cons (ptonStep_next _ (by omega) rfl (by dsimp only; omega)
        (by dsimp only; omega))]
    simp only [hn₂]

/-- An octet and its dot finish the octet. -/
theorem foldlM_octetText_dot (k : Nat) (done : List Nat) {n : Nat} (hn : n ≤ 255) (hk : k < 3)
    (rest : Bytes) :
    (octetText n ++ [46] ++ rest).foldlM ptonStep ⟨false, k, done, 0⟩ =
      rest.foldlM ptonStep ⟨false, k + 1, done ++ [n], 0⟩ := by
  have hdot : ptonStep ⟨true, k + 1, done, n⟩ 46 = some ⟨false, k + 1, done ++ [n], 0⟩ := by
    simp only [ptonStep]
    rw [if_neg (by decide), if_pos (by decide), if_neg (by omega)]
  rw [List.append_assoc, foldlM_octetText _ hn rfl rfl (by dsimp only; omega),
    List.singleton_append, foldlM_ptonStep_cons hdot]

theorem ofNat_toNat_byte (x : UInt8) : UInt8.ofNat x.toNat = x :=
  UInt8.toNat.inj (UInt8.toNat_ofNat_of_lt x.toNat_lt_size)

/-- `inet_pton4` reads back every address `inet_ntop4` prints. -/
theorem inetPton4_inetNtop4 (a b c d : UInt8) :
    inetPton4 (inetNtop4 a b c d) = some [a, b, c, d] := by
  rw [inetPton4, inetNtop4, List.append_assoc, List.append_assoc, List.append_assoc,
    List.append_assoc, List.append_assoc, ← List.append_assoc (octetText a.toNat),
    ← List.append_assoc (octetText b.toNat), ← List.append_assoc (octetText c.toNat)]
  rw [PtonState.init, foldlM_octetText_dot 0 [] (toNat_le_255 a) (by decide),
    foldlM_octetText_dot 1 _ (toNat_le_255 b) (by decide),
    foldlM_octetText_dot 2 _ (toNat_le_255 c) (by decide), ← List.append_nil (octetText d.toNat),
    foldlM_octetText _ (toNat_le_255 d) rfl rfl (by dsimp only; omega)]
  simp only [List.foldlM_nil, List.nil_append, List.singleton_append, List.cons_append, pure_bind]
  rw [if_neg (by decide)]
  simp only [List.map_cons, List.map_nil, ofNat_toNat_byte]

/-- Every four bytes are the address of some `uint32_t`, which `ip_to_string` prints as
`inet_ntop4` prints the bytes. -/
theorem exists_ipBytes (a b c d : UInt8) :
    ∃ ip : UInt32, ipBytes ip = [a, b, c, d] ∧ ipToString ip = inetNtop4 a b c d := by
  have := a.toNat_lt_size; have := b.toNat_lt_size; have := c.toNat_lt_size
  have := d.toNat_lt_size
  simp only [UInt8.size] at *
  let ip := UInt32.ofNat (a.toNat * 2 ^ 24 + b.toNat * 2 ^ 16 + c.toNat * 2 ^ 8 + d.toNat)
  have hip : ip.toNat = a.toNat * 2 ^ 24 + b.toNat * 2 ^ 16 + c.toNat * 2 ^ 8 + d.toNat :=
    UInt32.toNat_ofNat_of_lt (by simp only [UInt32.size]; omega)
  have byte : ∀ (x : UInt8) (n : Nat), n % 256 = x.toNat → UInt8.ofNat n = x :=
    fun x n h => UInt8.toNat.inj h
  have ha := byte a (ip.toNat / 2 ^ 24) (by rw [hip]; omega)
  have hb := byte b (ip.toNat / 2 ^ 16) (by rw [hip]; omega)
  have hc := byte c (ip.toNat / 2 ^ 8) (by rw [hip]; omega)
  have hd := byte d ip.toNat (by rw [hip]; omega)
  exact ⟨ip, by rw [ipBytes, ha, hb, hc, hd], by rw [ipToString, ha, hb, hc, hd]⟩

/-- `inet_pton4` accepts exactly the texts `ip_to_string` prints, and reads each back as the
bytes of the address it prints. -/
theorem inetPton4_eq_some_iff_ipToString (src : Bytes) (addr : List UInt8) :
    inetPton4 src = some addr ↔ ∃ ip : UInt32, addr = ipBytes ip ∧ src = ipToString ip := by
  constructor
  · intro h
    obtain ⟨a, b, c, d, rfl, rfl⟩ := inetPton4_sound h
    obtain ⟨ip, hb, hs⟩ := exists_ipBytes a b c d
    exact ⟨ip, hb.symm, hs.symm⟩
  · rintro ⟨ip, rfl, rfl⟩
    exact inetPton4_inetNtop4 _ _ _ _

/-! ## Length -/

theorem length_octetText_le (n : Nat) : (octetText n).length ≤ 3 := by
  unfold octetText
  split_ifs <;> simp

/-- An accepted text has at most 15 bytes, the length of `255.255.255.255`. -/
theorem length_le_of_inetPton4 {src : Bytes} {addr : List UInt8} (h : inetPton4 src = some addr) :
    src.length ≤ 15 := by
  obtain ⟨a, b, c, d, -, rfl⟩ := inetPton4_sound h
  have := length_octetText_le a.toNat; have := length_octetText_le b.toNat
  have := length_octetText_le c.toNat; have := length_octetText_le d.toNat
  simp only [inetNtop4, List.length_append, List.length_singleton]
  omega

/-- Cutting a text after more than 15 bytes changes nothing `inet_pton4` reads: it accepted
nothing longer before the cut, and accepts nothing as long after it. -/
theorem inetPton4_take {n : Nat} (hn : 15 < n) (src : Bytes) :
    inetPton4 (src.take n) = inetPton4 src := by
  by_cases hs : src.length ≤ n
  · rw [List.take_of_length_le hs]
  · have hcut : ∀ addr, inetPton4 (src.take n) ≠ some addr := fun addr h => by
      have := length_le_of_inetPton4 h
      rw [List.length_take] at this
      omega
    have hsrc : ∀ addr, inetPton4 src ≠ some addr := fun addr h => by
      have := length_le_of_inetPton4 h
      omega
    rw [Option.eq_none_iff_forall_not_mem.mpr hcut, Option.eq_none_iff_forall_not_mem.mpr hsrc]

end AeroGateway.Feed
