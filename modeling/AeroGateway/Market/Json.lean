import AeroGateway.Market.Types

/-!
# JSON documents

A parsed JSON document, as the venue parsers and the subscription-ack parser read it. An
object keeps its fields in the order of the text, repeated keys included: simdjson's DOM finds
the first field with a key, its on-demand API searches on from where its last lookup in the
object stopped. A number keeps its literal text. simdjson rejects text that is not UTF-8, so a
string is a Lean `String`. Turning text into a document is not modelled; where the code catches a
parse error, a text that does not parse is `none`.
-/

namespace AeroGateway.Market

/-- A JSON value. -/
inductive Json
  | null
  | bool (b : Bool)
  | number (literal : String)
  | string (s : String)
  | array (items : List Json)
  | object (fields : List (String × Json))
  deriving Repr

namespace Json

/-- simdjson's `element["key"]`: the first field of an object with that key. -/
def get (key : String) : Json → Option Json
  | object fields => fields.lookup key
  | _ => none

/-- simdjson's `get(std::string_view&)`: the text of a string. -/
def str? : Json → Option String
  | string s => some s
  | _ => none

/-- simdjson's `get_bool()` and `get(bool&)`: the value of a boolean. -/
def bool? : Json → Option Bool
  | bool b => some b
  | _ => none

/-- The elements of an array. -/
def array? : Json → Option (List Json)
  | array items => some items
  | _ => none

/-- The fields of an object. -/
def fields? : Json → Option (List (String × Json))
  | object fields => some fields
  | _ => none

/-- No key is repeated among the fields of an object. -/
def keysDistinct : Json → Bool
  | object fields => decide (fields.map Prod.fst).Nodup
  | _ => true

@[simp] theorem str?_eq_some {v : Json} {s : String} : v.str? = some s ↔ v = .string s := by
  cases v <;> simp [str?]

@[simp] theorem array?_eq_some {v : Json} {items : List Json} :
    v.array? = some items ↔ v = .array items := by
  cases v <;> simp [array?]

@[simp] theorem fields?_eq_some {v : Json} {fields : List (String × Json)} :
    v.fields? = some fields ↔ v = .object fields := by
  cases v <;> simp [fields?]

/-- `get_uint64()`: a number written as decimal digits alone, below 2^64. -/
def uint64? : Json → Option UInt64
  | number literal =>
    let digits := literal.data
    if digits.isEmpty || !digits.all Char.isDigit then none else
      let n := digits.foldl (fun n c => 10 * n + (c.toNat - 48)) 0
      if n < 2 ^ 64 then some (UInt64.ofNat n) else none
  | _ => none

end Json

/-- The UTF-8 bytes of a string, as a `std::string_view` of it holds them. -/
def bytesOf (s : String) : Bytes := s.toUTF8.data.toList

/-- The first field with the key in a run of fields whose first index is `i`, with the index
after it. -/
def findFrom (key : String) : Nat → List (String × Json) → Option (Json × Nat)
  | _, [] => none
  | i, f :: fs => if f.1 = key then some (f.2, i + 1) else findFrom key (i + 1) fs

/-- simdjson on-demand's `object["key"]`, an unordered lookup: the first field with the key at
or after the cursor, else the first before it, with the cursor moved past the field found. -/
def findFieldUnordered (fields : List (String × Json)) (pos : Nat) (key : String) :
    Option (Json × Nat) :=
  findFrom key pos (fields.drop pos) <|> findFrom key 0 (fields.take pos)

section Lookup

variable {α β : Type} [BEq α] [LawfulBEq α] {k : α}

theorem lookup_eq_none_iff : ∀ {l : List (α × β)}, l.lookup k = none ↔ k ∉ l.map Prod.fst
  | [] => by simp
  | e :: es => by
    rw [List.lookup_cons]
    split <;> rename_i h
    · simp [beq_iff_eq.mp h]
    · simp only [lookup_eq_none_iff, List.map_cons, List.mem_cons, not_or,
        beq_eq_false_iff_ne.mp h, not_false_eq_true, true_and]

theorem mem_of_lookup_eq_some {v : β} :
    ∀ {l : List (α × β)}, l.lookup k = some v → (k, v) ∈ l
  | [], h => nomatch h
  | e :: es, h => by
    rw [List.lookup_cons] at h
    split at h <;> rename_i he
    · cases h; rw [beq_iff_eq.mp he]; exact List.mem_cons_self _ _
    · exact List.mem_cons_of_mem _ (mem_of_lookup_eq_some h)

/-- With no key repeated, the entry at a key is the one `lookup` finds. -/
theorem lookup_eq_some_of_mem {v : β} :
    ∀ {l : List (α × β)}, (l.map Prod.fst).Nodup → (k, v) ∈ l → l.lookup k = some v
  | [], _, h => nomatch h
  | e :: es, hn, h => by
    have ⟨he, hes⟩ := List.nodup_cons.mp hn
    rw [List.lookup_cons]
    rcases List.mem_cons.mp h with rfl | h
    · simp
    · have hk : k ≠ e.1 := fun hk => he (hk ▸ List.mem_map_of_mem Prod.fst h)
      simp only [beq_false_of_ne hk]
      exact lookup_eq_some_of_mem hes h

end Lookup

section Find

variable {key : String}

/-- The search finds the first field with the key. -/
theorem map_fst_findFrom :
    ∀ (i : Nat) (l : List (String × Json)), (findFrom key i l).map Prod.fst = l.lookup key
  | _, [] => rfl
  | i, f :: fs => by
    rw [findFrom, List.lookup_cons]
    by_cases h : f.1 = key
    · simp [h]
    · simp only [h, if_false, map_fst_findFrom (i + 1) fs]
      rw [beq_false_of_ne (Ne.symm h)]

theorem mem_of_findFrom {v : Json} {j : Nat} :
    ∀ {i : Nat} {l : List (String × Json)}, findFrom key i l = some (v, j) → (key, v) ∈ l
  | _, [], h => nomatch h
  | i, f :: fs, h => by
    rw [findFrom] at h
    split at h <;> rename_i hf
    · cases h; rw [← hf]; exact List.mem_cons_self _ _
    · exact List.mem_cons_of_mem _ (mem_of_findFrom h)

/-- From the start of an object, the unordered lookup finds the first field with the key. -/
theorem findFieldUnordered_zero (fields : List (String × Json)) :
    (findFieldUnordered fields 0 key).map Prod.fst = fields.lookup key := by
  rw [← map_fst_findFrom 0 fields]
  simp only [findFieldUnordered, List.drop_zero, List.take_zero, findFrom]
  cases findFrom key 0 fields <;> rfl

/-- In an object with no repeated key, the unordered lookup finds the field `lookup` finds,
wherever the cursor is. -/
theorem findFieldUnordered_of_nodup {fields : List (String × Json)}
    (h : (fields.map Prod.fst).Nodup) (pos : Nat) :
    (findFieldUnordered fields pos key).map Prod.fst = fields.lookup key := by
  unfold findFieldUnordered
  cases hd : findFrom key pos (fields.drop pos) with
  | some r =>
    rw [lookup_eq_some_of_mem h (List.mem_of_mem_drop (mem_of_findFrom hd))]
    rfl
  | none =>
    have hnd : key ∉ (fields.drop pos).map Prod.fst := by
      rw [← lookup_eq_none_iff, ← map_fst_findFrom pos, hd]; rfl
    show (findFrom key 0 (fields.take pos)).map Prod.fst = _
    rw [map_fst_findFrom]
    cases ht : (fields.take pos).lookup key with
    | some v => exact (lookup_eq_some_of_mem h (List.mem_of_mem_take (mem_of_lookup_eq_some ht))).symm
    | none =>
      refine (lookup_eq_none_iff.mpr fun hk => ?_).symm
      rw [← List.take_append_drop pos fields, List.map_append, List.mem_append] at hk
      exact hk.elim (lookup_eq_none_iff.mp ht) hnd

end Find

end AeroGateway.Market
