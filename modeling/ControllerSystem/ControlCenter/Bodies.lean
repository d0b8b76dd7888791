import ControllerSystem.Body

/-!
# The bodies of requests to the ControlCenter

The layouts of the requests other than those for a power port, as its clients write them: fields
one behind the other, a number as four bytes, a text with its zero byte. `parseBody` inverts them
(`parseBody_request`): it finds the fields that were written, all of them and no others.
-/

open Words

namespace ControllerSystem.ControlCenter

/-! ### Layouts -/

/-- A text in a body. It is not empty, and ends at its zero byte. -/
structure BodyText where
  bytes : Bytes
  ne_nil : bytes ≠ []
  nul_free : 0 ∉ bytes

/-- A field of a body. -/
inductive Field
  | int (n : Word)
  | text (s : BodyText)

namespace Field

/-- The bytes of a field on the wire. -/
def bytes : Field → Bytes
  | int n => beBytes n
  | text s => s.bytes ++ [0]

/-- The string a field is stored as. -/
def string : Field → Bytes
  | int n => convertToString n.toInt
  | text s => s.bytes

end Field

/-- The bodies of the requests. -/
inductive RequestBody
  | bind (id : BodyText)
  | accessLog (type : Word) (data : BodyText)
  | initial (type : Word)
  | signUp (type : Word) (data : BodyText)
  | mdmLogin (account password : BodyText)
  | mdmOperate (token : BodyText)
  | sdkTracker (data : BodyText)

namespace RequestBody

def command : RequestBody → Word
  | bind _ => bindRequest
  | accessLog _ _ => accessLogRequest
  | initial _ => initialRequest
  | signUp _ _ => signUpRequest
  | mdmLogin _ _ => mdmLoginRequest
  | mdmOperate _ => mdmOperateRequest
  | sdkTracker _ => sdkTrackerRequest

/-- The fields of a body, in the order they are written. -/
def fields : RequestBody → List (String × Field)
  | bind id => [("id", .text id)]
  | accessLog type data => [("type", .int type), ("data", .text data)]
  | initial type => [("type", .int type)]
  | signUp type data => [("type", .int type), ("data", .text data)]
  | mdmLogin account password => [("account", .text account), ("password", .text password)]
  | mdmOperate token => [("token", .text token)]
  | sdkTracker data => [("data", .text data)]

/-- The body on the wire. -/
def bytes (q : RequestBody) : Bytes := q.fields.flatMap fun f => f.2.bytes

/-- What is read from a body: the strings of its fields, each stored in front of the ones before. -/
def strings (q : RequestBody) : CDataHandler := (q.fields.map fun f => (f.1, f.2.string)).reverse

end RequestBody

/-! ### Reading a field -/

/-- The next field is a number. -/
theorem takeInt_field (m : CDataHandler) (n : String) (w : Word) (rest : Bytes) :
    BodyReader.takeInt ⟨m, (Field.int w).bytes ++ rest⟩ n =
      ⟨m.setData n (Field.int w).string, rest⟩ := BodyReader.takeInt_append w rest

/-- The next field is a text. -/
theorem takeStr_field (m : CDataHandler) (n : String) {s : BodyText}
    (hlen : (Field.text s).bytes.length ≤ maxDataLen) (rest : Bytes) :
    BodyReader.takeStr ⟨m, (Field.text s).bytes ++ rest⟩ n =
      ⟨m.setData n (Field.text s).string, rest⟩ := by
  have hlt : s.bytes.length < maxSize := by
    rw [Field.bytes, List.length_append, List.length_singleton] at hlen
    exact hlen
  rw [Field.bytes, List.append_assoc, List.singleton_append]
  exact BodyReader.takeStr_append s.ne_nil s.nul_free hlt rest

/-! ### Reading a body -/

namespace RequestBody

/-- No field is empty. -/
theorem bytes_length_pos (q : RequestBody) : 0 < q.bytes.length := by
  cases q <;> simp only [bytes, fields, Field.bytes, List.flatMap_cons, List.length_append,
    length_beBytes, List.length_singleton] <;> omega

/-- A field is no longer than the body. -/
theorem field_length_le {q : RequestBody} {f : String × Field} (hf : f ∈ q.fields) :
    f.2.bytes.length ≤ q.bytes.length := by
  have hmem : f.2.bytes ∈ q.fields.map fun f => f.2.bytes := List.mem_map.mpr ⟨f, hf, rfl⟩
  rw [bytes, List.flatMap_def]
  exact (List.sublist_flatten_of_mem hmem).length_le

/-- The case of a request reads its fields. -/
theorem bodyFields_bytes (q : RequestBody) (hfit : q.bytes.length ≤ maxDataLen) (rest : Bytes) :
    bodyFields q.command ⟨[], q.bytes ++ rest⟩ = ⟨q.strings, rest⟩ := by
  have htext : ∀ n s, (n, Field.text s) ∈ q.fields →
      (Field.text s).bytes.length ≤ maxDataLen :=
    fun n s hmem => (field_length_le hmem).trans hfit
  cases q with
  | bind id =>
    have hid := htext "id" id (by simp [fields])
    simp only [bytes, fields, List.flatMap_cons, List.flatMap_nil, List.append_nil]
    exact takeStr_field [] "id" hid rest
  | accessLog type data =>
    have hdata := htext "data" data (by simp [fields])
    simp only [bytes, fields, List.flatMap_cons, List.flatMap_nil, List.append_nil,
      List.append_assoc]
    show (BodyReader.takeInt ⟨[], _⟩ "type").takeStr "data" = _
    rw [takeInt_field, takeStr_field _ _ hdata]
    rfl
  | initial type =>
    simp only [bytes, fields, List.flatMap_cons, List.flatMap_nil, List.append_nil]
    exact takeInt_field [] "type" type rest
  | signUp type data =>
    have hdata := htext "data" data (by simp [fields])
    simp only [bytes, fields, List.flatMap_cons, List.flatMap_nil, List.append_nil,
      List.append_assoc]
    show (BodyReader.takeInt ⟨[], _⟩ "type").takeStr "data" = _
    rw [takeInt_field, takeStr_field _ _ hdata]
    rfl
  | mdmLogin account password =>
    have haccount := htext "account" account (by simp [fields])
    have hpassword := htext "password" password (by simp [fields])
    simp only [bytes, fields, List.flatMap_cons, List.flatMap_nil, List.append_nil,
      List.append_assoc]
    show (BodyReader.takeStr ⟨[], _⟩ "account").takeStr "password" = _
    rw [takeStr_field _ _ haccount, takeStr_field _ _ hpassword]
    rfl
  | mdmOperate token =>
    have htoken := htext "token" token (by simp [fields])
    simp only [bytes, fields, List.flatMap_cons, List.flatMap_nil, List.append_nil]
    exact takeStr_field [] "token" htoken rest
  | sdkTracker data =>
    have hdata := htext "data" data (by simp [fields])
    simp only [bytes, fields, List.flatMap_cons, List.flatMap_nil, List.append_nil]
    exact takeStr_field [] "data" hdata rest

/-- The names of the fields are different. -/
theorem nodup_names (q : RequestBody) : (q.fields.map Prod.fst).Nodup := by
  cases q <;> simp [fields]

theorem lookup_strings (q : RequestBody) (k : String) :
    q.strings.lookup k = (q.fields.lookup k).map Field.string := by
  have hnames : ((q.fields.map fun f => (f.1, f.2.string)).map Prod.fst).Nodup := by
    rw [List.map_map]
    exact q.nodup_names
  rw [strings, AssocList.lookup_reverse hnames, AssocList.lookup_map fun _ => Field.string]

end RequestBody

/-- **`parseBody` inverts the layouts.** From a packet with the body of a request, in zeroed memory,
it reads as many fields as there are, finds under each name what was written there and nothing
under any other, and the text of a number converts back to the number. -/
theorem parseBody_request (p : CmpPacket) (q : RequestBody)
    (hcommand : p.cmpHeader.commandId = q.command) (hbody : p.cmpBody = q.bytes) :
    (parseBody (getCommand p.image) p.image).1 = q.fields.length ∧
    (∀ k, (parseBody (getCommand p.image) p.image).2.lookup k =
      (q.fields.lookup k).map Field.string) ∧
    ∀ n w, (n, Field.int w) ∈ q.fields →
      convertFromString ((parseBody (getCommand p.image) p.image).2.get n) = w.toInt := by
  have hfit : q.bytes.length ≤ maxDataLen := hbody ▸ p.cmpBody_le
  have hlen : 0 < nBodyLen p.cmpHeader := by
    rw [p.nBodyLen_eq, hbody]
    exact_mod_cast q.bytes_length_pos
  have hparse : parseBody (getCommand p.image) p.image =
      (CDataHandler.size q.strings, q.strings) := by
    rw [CmpPacket.image, getCommand_packetImage, hcommand, parseBody,
      parseBodyWith_packetImage _ hlen, hbody, q.bodyFields_bytes hfit]
  rw [hparse]
  refine ⟨by simp [CDataHandler.size, RequestBody.strings], q.lookup_strings, ?_⟩
  intro n w hmem
  have hget : CDataHandler.get q.strings n = convertToString w.toInt := by
    rw [CDataHandler.get, q.lookup_strings, (AssocList.lookup_eq_some_iff q.nodup_names).mpr hmem]
    rfl
  rw [hget]
  exact convertFromString_convertToString (by have := w.le_toInt; omega)
    (by have := w.toInt_lt; omega)

/-- A sign-up of the type -2 with the data `x`. -/
def signUpBody : RequestBody := .signUp (-2#32) ⟨ascii "x", by decide, by decide⟩

/-- The packet of the sign-up. -/
def signUpPacket : CmpPacket where
  cmpHeader := ⟨22#32, signUpRequest, statusRok, 1#32⟩
  cmpBody := signUpBody.bytes
  commandLength_eq := by decide
  cmpBody_le := by decide

theorem parseBody_request_signUp :
    (parseBody (getCommand signUpPacket.image) signUpPacket.image).1 = 2 ∧
    (∀ k, (parseBody (getCommand signUpPacket.image) signUpPacket.image).2.lookup k =
      (signUpBody.fields.lookup k).map Field.string) ∧
    ∀ n w, (n, Field.int w) ∈ signUpBody.fields →
      convertFromString
        ((parseBody (getCommand signUpPacket.image) signUpPacket.image).2.get n) = w.toInt :=
  parseBody_request signUpPacket signUpBody rfl rfl

end ControllerSystem.ControlCenter
