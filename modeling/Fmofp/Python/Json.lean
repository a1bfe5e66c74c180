import Mathlib
import Fmofp.Python.Text

/-! `json.dumps` with its defaults: the text of a value in ASCII, and lower bounds on its size. -/

namespace Python.Json

def hexDigit (n : ℕ) : Char := if n < 10 then Char.ofNat (48 + n) else Char.ofNat (87 + n)

/-- `\uXXXX` for one UTF-16 code unit. -/
def escapeUnit (n : ℕ) : List Char :=
  ['\\', 'u', hexDigit (n / 4096 % 16), hexDigit (n / 256 % 16), hexDigit (n / 16 % 16),
    hexDigit (n % 16)]

/-- A character inside a string: printable ASCII stands for itself, apart from quote and
backslash; a character above the basic plane is two code units. -/
def escapeChar (c : Char) : List Char :=
  if c = '"' then ['\\', '"']
  else if c = '\\' then ['\\', '\\']
  else if c = '\n' then ['\\', 'n']
  else if c = '\r' then ['\\', 'r']
  else if c = '\t' then ['\\', 't']
  else if c.toNat = 8 then ['\\', 'b']
  else if c.toNat = 12 then ['\\', 'f']
  else if 32 ≤ c.toNat ∧ c.toNat < 127 then [c]
  else if c.toNat < 65536 then escapeUnit c.toNat
  else
    let n := c.toNat - 65536
    escapeUnit (55296 + n / 1024) ++ escapeUnit (56320 + n % 1024)

def dumpsStr (s : String) : List Char := '"' :: s.toList.flatMap escapeChar ++ ['"']

/-- Texts joined by `", "`. -/
def joined : List (List Char) → List Char
  | [] => []
  | [x] => x
  | x :: y :: rest => x ++ ',' :: ' ' :: joined (y :: rest)

mutual

/-- `json.dumps(v)`. -/
def dumps (py : Runtime) : Value → List Char
  | .none => "null".toList
  | .bool b => if b then "true".toList else "false".toList
  | .int n => (toString n).toList
  | .float q => (py.reprFloat q).toList
  | .str s => dumpsStr s
  | .list xs => '[' :: joined (dumpsItems py xs) ++ [']']
  | .tuple xs => '[' :: joined (dumpsItems py xs) ++ [']']
  | .dict es => '{' :: joined (dumpsEntries py es) ++ ['}']

def dumpsItems (py : Runtime) : List Value → List (List Char)
  | [] => []
  | x :: xs => dumps py x :: dumpsItems py xs

def dumpsEntries (py : Runtime) : List (String × Value) → List (List Char)
  | [] => []
  | (k, x) :: es => (dumpsStr k ++ ':' :: ' ' :: dumps py x) :: dumpsEntries py es

end

mutual

/-- What the reader of the text gets back: a tuple comes back as a list. -/
def received : Value → Value
  | .tuple xs => .list (receivedItems xs)
  | .list xs => .list (receivedItems xs)
  | .dict es => .dict (receivedEntries es)
  | v => v

def receivedItems : List Value → List Value
  | [] => []
  | x :: xs => received x :: receivedItems xs

def receivedEntries : List (String × Value) → List (String × Value)
  | [] => []
  | (k, x) :: es => (k, received x) :: receivedEntries es

end

/-- The number of bytes of `json.dumps(v).encode()`. -/
def size (py : Runtime) (v : Value) : ℕ := (dumps py v).length

theorem escapeChar_length_pos (c : Char) : 1 ≤ (escapeChar c).length := by
  unfold escapeChar
  split_ifs <;> simp [escapeUnit]

theorem dumpsStr_length (s : String) : s.length + 2 ≤ (dumpsStr s).length := by
  have h : ∀ cs : List Char, cs.length ≤ (cs.flatMap escapeChar).length := by
    intro cs
    induction cs with
    | nil => simp
    | cons c cs ih =>
      have hc := escapeChar_length_pos c
      simp only [List.flatMap_cons, List.length_append, List.length_cons]
      omega
  have hs := h s.toList
  simp only [String.length_toList] at hs
  simp only [dumpsStr, List.length_append, List.length_cons, List.length_nil]
  omega

/-- Joining costs two characters between any two texts. -/
theorem joined_length (x : List Char) (xs : List (List Char)) :
    (joined (x :: xs)).length = x.length + (xs.map fun y => y.length + 2).sum := by
  induction xs generalizing x with
  | nil => simp [joined]
  | cons y ys ih =>
    rw [joined, List.length_append, List.length_cons, List.length_cons, ih y, List.map_cons,
      List.sum_cons]
    omega

theorem size_list_cons (py : Runtime) (x : Value) (xs : List Value) :
    size py (.list (x :: xs)) = 2 + size py x + (xs.map fun y => size py y + 2).sum := by
  have hitems : (dumpsItems py xs).map (fun t => t.length + 2) =
      xs.map fun y => size py y + 2 := by
    induction xs with
    | nil => rfl
    | cons y ys ih => simp [dumpsItems, size, ih]
  simp only [size, dumps, dumpsItems, List.length_append, List.length_cons, List.length_nil,
    joined_length, hitems]
  omega

/-- The characters that one entry of a dictionary takes: its key, `": "` and its value. -/
def entrySize (py : Runtime) (e : String × Value) : ℕ := (dumpsStr e.1).length + 2 + size py e.2

theorem size_dict_cons (py : Runtime) (e : String × Value) (es : List (String × Value)) :
    size py (.dict (e :: es)) = 2 + entrySize py e + (es.map fun f => entrySize py f + 2).sum := by
  have hentries : (dumpsEntries py es).map (fun t => t.length + 2) =
      es.map fun f => entrySize py f + 2 := by
    induction es with
    | nil => rfl
    | cons f fs ih =>
      obtain ⟨k, y⟩ := f
      simp only [dumpsEntries, List.map_cons, ih, List.length_append, List.length_cons,
        entrySize, size]
      congr 1
      omega
  obtain ⟨k, x⟩ := e
  simp only [size, dumps, dumpsEntries, List.length_append, List.length_cons, List.length_nil,
    joined_length, hentries, entrySize]
  omega

theorem get?_receivedEntries (es : List (String × Value)) (k : String) :
    Dict.get? (receivedEntries es) k = (Dict.get? es k).map received := by
  induction es with
  | nil => rfl
  | cons e es ih =>
    obtain ⟨k', x⟩ := e
    by_cases h : k' = k
    · simp [receivedEntries, Dict.get?, h]
    · simp [receivedEntries, Dict.get?, h, ih]

theorem receivedItems_isEmpty (xs : List Value) : (receivedItems xs).isEmpty = xs.isEmpty := by
  cases xs <;> rfl

theorem receivedEntries_isEmpty (es : List (String × Value)) :
    (receivedEntries es).isEmpty = es.isEmpty := by
  cases es <;> rfl

@[simp] theorem truthy_received (v : Value) : (received v).truthy = v.truthy := by
  cases v with
  | list xs => simp [received, Value.truthy, receivedItems_isEmpty]
  | tuple xs => simp [received, Value.truthy, receivedItems_isEmpty]
  | dict es => simp [received, Value.truthy, receivedEntries_isEmpty]
  | _ => rfl

theorem flag_receivedEntries (m : Message) (k : String) :
    Message.flag (receivedEntries m) k = m.flag k := by
  rw [Message.flag, get?_receivedEntries, Option.map_map, Message.flag]
  congr 2
  funext v
  exact truthy_received v

/-- Items of at least `n` bytes each, with the two characters before each of them. -/
theorem sum_size_ge (py : Runtime) (xs : List Value) {n : ℕ} (h : ∀ y ∈ xs, n ≤ size py y) :
    xs.length * (n + 2) ≤ (xs.map fun y => size py y + 2).sum := by
  have hcard := List.card_nsmul_le_sum (xs.map fun y => size py y + 2) (n + 2) (by
    intro k hk
    obtain ⟨y, hy, rfl⟩ := List.mem_map.mp hk
    have hle := h y hy
    omega)
  rwa [List.length_map, smul_eq_mul] at hcard

theorem size_bool_ge (py : Runtime) (b : Bool) : 4 ≤ size py (.bool b) := by
  cases b <;> simp [size, dumps]

theorem size_str_ge (py : Runtime) (s : String) : s.length + 2 ≤ size py (.str s) :=
  dumpsStr_length s

end Python.Json

/-! Text as bytes: `s.encode()`, `b.decode()`, and what a front part of encoded text is decoded to. -/

namespace Python.Utf8

/-- `s.encode()`. -/
def encode (s : String) : List UInt8 := s.toByteArray.data.toList

/-- `b.decode()`: nothing where it raises `UnicodeDecodeError`. -/
def decode (b : List UInt8) : Option String := String.fromUTF8? ⟨b.toArray⟩

theorem toByteArray_of_encode (s : String) : (⟨(encode s).toArray⟩ : ByteArray) = s.toByteArray := rfl

theorem decode_encode (s : String) : decode (encode s) = some s := by
  unfold decode String.fromUTF8?
  rw [toByteArray_of_encode, dif_pos s.isValidUTF8]
  rfl

theorem encode_of_decode {b : List UInt8} {s : String} (h : decode b = some s) : encode s = b := by
  unfold decode String.fromUTF8? at h
  split_ifs at h with hvalid
  cases h
  rfl

/-- What comes behind text in encoded text is encoded text. -/
theorem isValidUTF8_of_append (cs : List Char) {b : ByteArray} (h : (cs.utf8Encode ++ b).IsValidUTF8) :
    b.IsValidUTF8 := by
  induction cs with
  | nil => simpa using h
  | cons c cs ih =>
    rw [← List.singleton_append, List.utf8Encode_append, ByteArray.append_assoc,
      ByteArray.isValidUTF8_utf8Encode_singleton_append_iff] at h
    exact ih h

/-- A front part of encoded text that is decoded is a front part of the text. -/
theorem decode_append {front back : List UInt8} {s t : String} (h : front ++ back = encode s)
    (hfront : decode front = some t) : ∃ u, s = t ++ u ∧ encode u = back := by
  have hencode := encode_of_decode hfront
  have hbytes : t.toByteArray ++ ⟨back.toArray⟩ = s.toByteArray := by
    apply ByteArray.ext
    apply Array.toList_inj.mp
    rw [ByteArray.toList_data_append]
    show encode t ++ back = encode s
    rw [hencode, h]
  have hvalid : ByteArray.IsValidUTF8 ⟨back.toArray⟩ := by
    obtain ⟨cs, rfl⟩ := t.exists_eq_ofList
    have hs := s.isValidUTF8
    rw [← hbytes, String.toByteArray_ofList] at hs
    exact isValidUTF8_of_append cs hs
  refine ⟨String.fromUTF8 ⟨back.toArray⟩ hvalid, ?_, rfl⟩
  rw [← String.toByteArray_inj, String.toByteArray_append, ← hbytes]
  rfl

theorem encode_empty : encode "" = [] := rfl

end Python.Utf8
