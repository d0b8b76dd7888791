import ControllerSystem.ControlCenter.Bodies

/-!
# What a body is read from

`parseBody` looks at the length a header announces once, for whether there is a body at all. Behind
that it reads fields one after the other, strings up to a zero byte, wherever the packet ends.

The cases of `parseBody` are lists of reads (`bodyReads`). A read is `Within` the body if what it
stores is there, or if the body is so long that no string behind it is taken for valid.

* `parseBody_packet_only_iff` — the result depends on the packet alone if and only if all reads are
  within the body.
-/

open Words

namespace ControllerSystem.ControlCenter

/-! ### The reads of a body -/

/-- A read of `parseBody`, with the name of the field. -/
inductive BodyRead
  | byte (name : String)
  | int (name : String)
  | str (name : String)

namespace BodyRead

def name : BodyRead → String
  | byte n => n
  | int n => n
  | str n => n

def run : BodyRead → BodyReader → BodyReader
  | byte n, r => r.takeByte n
  | int n, r => r.takeInt n
  | str n, r => r.takeStr n

/-- The field is in the body; or it is a string, and the body is longer than a valid one. -/
def Within : BodyRead → Bytes → Prop
  | byte _, body => 1 ≤ body.length
  | int _, body => 4 ≤ body.length
  | str _, body => 0 ∈ body ∨ maxSize ≤ body.length

instance (q : BodyRead) (body : Bytes) : Decidable (q.Within body) := by
  cases q <;> unfold Within <;> infer_instance

/-- What is left of the body. -/
def rest (q : BodyRead) (body : Bytes) : Bytes := (q.run ⟨[], body⟩).pBody

end BodyRead

/-- Some reads, one after the other. -/
def runReads (qs : List BodyRead) (r : BodyReader) : BodyReader := qs.foldl (fun r q => q.run r) r

/-- All of them are within the body. -/
def ReadsWithin : List BodyRead → Bytes → Prop
  | [], _ => True
  | q :: qs, body => q.Within body ∧ ReadsWithin qs (q.rest body)

/-- The reads of the cases of `parseBody`. -/
def bodyReads (nCommand : Word) : List BodyRead :=
  if nCommand = bindRequest then [.str "id"]
  else if nCommand = powerPortSetRequest then
    [.byte "wire", .byte "port", .byte "state", .str "controller"]
  else if nCommand = powerPortStateRequest then [.byte "wire", .str "controller"]
  else if nCommand = accessLogRequest then [.int "type", .str "data"]
  else if nCommand = initialRequest then [.int "type"]
  else if nCommand = signUpRequest then [.int "type", .str "data"]
  else if nCommand = mdmLoginRequest then [.str "account", .str "password"]
  else if nCommand = mdmOperateRequest then [.str "token"]
  else if nCommand = sdkTrackerRequest then [.str "data"]
  else []

/-- The cases of `parseBody` are their reads. -/
theorem bodyFields_eq (nCommand : Word) (r : BodyReader) :
    bodyFields nCommand r = runReads (bodyReads nCommand) r := by
  simp only [bodyReads, apply_ite fun qs => runReads qs r]
  rfl

/-- What holds of the reads of each case, holds of those of a command. -/
theorem bodyReads_ind {P : List BodyRead → Prop} (nCommand : Word) (id : P [.str "id"])
    (powerPortSet : P [.byte "wire", .byte "port", .byte "state", .str "controller"])
    (powerPortState : P [.byte "wire", .str "controller"])
    (log : P [.int "type", .str "data"]) (initial : P [.int "type"])
    (login : P [.str "account", .str "password"]) (token : P [.str "token"])
    (tracker : P [.str "data"]) (none : P []) : P (bodyReads nCommand) := by
  refine iteInduction (fun _ => id) fun _ => iteInduction (fun _ => powerPortSet) fun _ => ?_
  refine iteInduction (fun _ => powerPortState) fun _ => iteInduction (fun _ => log) fun _ => ?_
  refine iteInduction (fun _ => initial) fun _ => iteInduction (fun _ => log) fun _ => ?_
  refine iteInduction (fun _ => login) fun _ => iteInduction (fun _ => token) fun _ => ?_
  exact iteInduction (fun _ => tracker) fun _ => none

/-- No name is read twice. -/
theorem nodup_names (nCommand : Word) : ((bodyReads nCommand).map BodyRead.name).Nodup := by
  apply bodyReads_ind (P := fun qs => (qs.map BodyRead.name).Nodup)
  all_goals decide

/-! ### One read -/

/-- Different numbers have different texts. -/
theorem convertToString_toInt_inj {w w' : Word}
    (h : convertToString w.toInt = convertToString w'.toInt) : w = w' := by
  have hback : ∀ v : Word, convertFromString (convertToString v.toInt) = v.toInt := by
    intro v
    have hlow := BitVec.le_toInt v
    have hhigh := BitVec.toInt_lt (x := v)
    exact convertFromString_convertToString (by omega) (by omega)
  exact BitVec.toInt_inj.mp (by rw [← hback w, h, hback w'])

/-- A string that ends in the body. -/
theorem cstr_append_of_mem {body : Bytes} (hmem : 0 ∈ body) (rest : Bytes) :
    cstr (body ++ rest) = cstr body := by
  induction body with
  | nil => exact absurd hmem List.not_mem_nil
  | cons b body ih =>
    simp only [cstr] at ih ⊢
    rw [List.cons_append, List.takeWhile_cons, List.takeWhile_cons]
    split
    · next hb =>
      have hne : b ≠ 0 := of_decide_eq_true hb
      rw [ih ((List.mem_cons.mp hmem).resolve_left hne.symm)]
    · rfl

/-- A string that does not. -/
theorem cstr_append_of_notMem {body : Bytes} (hmem : 0 ∉ body) (rest : Bytes) :
    cstr (body ++ rest) = body ++ cstr rest := by
  have hall : ∀ b ∈ body, (decide (b ≠ 0)) = true := by
    intro b hb
    exact decide_eq_true fun h => hmem (h ▸ hb)
  rw [cstr, List.takeWhile_append_of_pos hall]
  rfl

/-- In a body longer than a valid string no string is valid, unless it ends there. -/
theorem isValidStr_of_notMem {body : Bytes} (hmem : 0 ∉ body) (hlen : maxSize ≤ body.length)
    (rest : Bytes) : isValidStr (body ++ rest) maxSize = false := by
  have hstrlen : strlen (body ++ rest) = body.length + strlen rest := by
    rw [strlen, cstr_append_of_notMem hmem, List.length_append, strlen]
  rw [isValidStr, hstrlen, Bool.and_eq_false_iff]
  exact .inr (decide_eq_false (by omega))

theorem strlen_succ_le {body : Bytes} (hmem : 0 ∈ body) : strlen body + 1 ≤ body.length :=
  strlen_lt_of_mem (by rwa [List.take_length])

namespace BodyRead

variable {q : BodyRead} {body : Bytes}

/-- What is stored under the name. -/
def stored : BodyRead → Bytes → Option Bytes
  | byte _, body => if body.headD 0 ≠ 0 then some [body.headD 0] else none
  | int _, body => some (convertToString (wordAt body 0).toInt)
  | str _, body => if isValidStr body maxSize then some (cstr body) else none

theorem lookup_run (q : BodyRead) (r : BodyReader) (k : String) :
    (q.run r).rData.lookup k =
      if k = q.name then (q.stored r.pBody).or (r.rData.lookup k) else r.rData.lookup k := by
  cases q with
  | byte n =>
    rw [run, BodyReader.lookup_takeByte, name, stored]
    by_cases hk : k = n
    · by_cases hb : r.pBody.headD 0 ≠ 0
      · rw [if_pos ⟨hk, hb⟩, if_pos hk, if_pos hb, Option.some_or]
      · rw [if_neg fun h => hb h.2, if_pos hk, if_neg hb, Option.none_or]
    · rw [if_neg fun h => hk h.1, if_neg hk]
  | int n => exact BodyReader.lookup_takeInt
  | str n =>
    rw [run, BodyReader.lookup_takeStr, name, stored]
    by_cases hk : k = n
    · by_cases hb : isValidStr r.pBody maxSize = true
      · rw [if_pos ⟨hk, hb⟩, if_pos hk, if_pos hb, Option.some_or]
      · rw [if_neg fun h => hb h.2, if_pos hk, if_neg hb, Option.none_or]
    · rw [if_neg fun h => hk h.1, if_neg hk]

/-- A read within the body does not see what is behind it. -/
theorem Within.run_append (h : q.Within body) (m : CDataHandler) (rest : Bytes) :
    q.run ⟨m, body ++ rest⟩ = ⟨(q.run ⟨m, body⟩).rData, q.rest body ++ rest⟩ := by
  cases q with
  | byte n =>
    have hlen : 1 ≤ body.length := h
    show BodyReader.mk _ _ = _
    rw [List.take_append_of_le_length hlen, List.drop_append_of_le_length hlen]
    rfl
  | int n =>
    have hlen : 4 ≤ body.length := h
    have hword : wordAt (body ++ rest) 0 = wordAt body 0 := by
      rw [wordAt_eq_iff]
      intro j hj
      rw [List.getD_eq_getElem?_getD, List.getElem?_append_left (by omega),
        List.getD_eq_getElem?_getD]
    show BodyReader.mk _ _ = _
    rw [hword, List.drop_append_of_le_length hlen]
    rfl
  | str n =>
    by_cases hmem : 0 ∈ body
    · have hcstr := cstr_append_of_mem hmem rest
      have hstrlen : strlen (body ++ rest) = strlen body := congrArg List.length hcstr
      have hvalid : isValidStr (body ++ rest) maxSize = isValidStr body maxSize := by
        rw [isValidStr, isValidStr, hstrlen]
      have hdrop : (body ++ rest).drop (strlen body + 1) = body.drop (strlen body + 1) ++ rest :=
        List.drop_append_of_le_length (strlen_succ_le hmem)
      simp only [run, BodyRead.rest, BodyReader.takeStr, hvalid, hcstr, hstrlen, hdrop]
      split <;> rfl
    · -- too long to be valid, whatever follows
      have hlen : maxSize ≤ body.length := h.resolve_left hmem
      have hvalid := isValidStr_of_notMem hmem hlen rest
      have hvalid' : isValidStr body maxSize = false := by
        simpa using isValidStr_of_notMem hmem hlen []
      simp [run, BodyRead.rest, BodyReader.takeStr, hvalid, hvalid']

/-- A read that is not within the body does. -/
theorem exists_stored_ne (h : ¬ q.Within body) :
    ∃ rest₁ rest₂, q.stored (body ++ rest₁) ≠ q.stored (body ++ rest₂) := by
  cases q with
  | byte n =>
    -- there is no byte
    have hnil : body = [] := List.eq_nil_of_length_eq_zero (by
      have hlt : ¬ 1 ≤ body.length := h
      omega)
    subst hnil
    exact ⟨[], [1], by simp [stored]⟩
  | int n =>
    have hlt : body.length < 4 := Nat.lt_of_not_le h
    refine ⟨[], [1], fun heq => ?_⟩
    -- the text of the number gives the number, and the number its bytes
    have hword := convertToString_toInt_inj (Option.some.inj heq)
    have hbyte := wordAt_eq_iff.mp hword body.length hlt
    rw [List.getD_eq_getElem?_getD, List.getD_eq_getElem?_getD, Nat.zero_add,
      List.getElem?_append_right le_rfl, List.getElem?_append_right le_rfl, Nat.sub_self] at hbyte
    exact absurd hbyte (by decide)
  | str n =>
    obtain ⟨hmem, hlen⟩ := not_or.mp (show ¬ (0 ∈ body ∨ maxSize ≤ body.length) from h)
    refine ⟨[], [1], fun heq => ?_⟩
    have hcstr₁ : cstr (body ++ []) = body := by
      rw [cstr_append_of_notMem hmem]
      exact List.append_nil body
    have hcstr₂ : cstr (body ++ [1]) = body ++ [1] := cstr_append_of_notMem hmem [1]
    rw [stored, stored, isValidStr, isValidStr, strlen, strlen, hcstr₁, hcstr₂] at heq
    rcases Nat.eq_zero_or_pos body.length with hzero | hpos
    · -- there is a string or none
      obtain rfl := List.eq_nil_of_length_eq_zero hzero
      exact absurd heq (by decide)
    · -- there is the body, or another string, or none
      have hvalid : (decide (0 < body.length) && decide (body.length < maxSize)) = true := by
        simp only [Bool.and_eq_true, decide_eq_true_eq]
        omega
      rw [if_pos hvalid] at heq
      split at heq
      · have hlength := congrArg List.length (Option.some.inj heq)
        simp at hlength
      · cases heq

end BodyRead

/-! ### All reads -/

theorem lookup_runReads {qs : List BodyRead} {k : String} (hk : k ∉ qs.map BodyRead.name)
    (r : BodyReader) : (runReads qs r).rData.lookup k = r.rData.lookup k := by
  induction qs generalizing r with
  | nil => rfl
  | cons q qs ih =>
    obtain ⟨hname, hrest⟩ := not_or.mp (List.mem_cons.not.mp hk)
    show (runReads qs (q.run r)).rData.lookup k = _
    rw [ih hrest, q.lookup_run, if_neg hname]

/-- **Reads within the body.** What some reads of different names store depends on the body alone
if and only if they are within it. -/
theorem readsWithin_iff {qs : List BodyRead} (hnodup : (qs.map BodyRead.name).Nodup)
    {m : CDataHandler} (hm : ∀ q ∈ qs, m.lookup q.name = none) (body : Bytes) :
    (∀ rest₁ rest₂, (runReads qs ⟨m, body ++ rest₁⟩).rData =
      (runReads qs ⟨m, body ++ rest₂⟩).rData) ↔ ReadsWithin qs body := by
  induction qs generalizing m body with
  | nil => exact iff_of_true (fun _ _ => rfl) trivial
  | cons q qs ih =>
    obtain ⟨hname, hnodup⟩ := List.nodup_cons.mp hnodup
    by_cases hwithin : q.Within body
    · -- the first read stores the same, and the others go on from there
      have hnext : ∀ q' ∈ qs, (q.run ⟨m, body⟩).rData.lookup q'.name = none := by
        intro q' hq'
        have hne : q'.name ≠ q.name := by
          intro heq
          exact hname (heq ▸ List.mem_map_of_mem hq')
        rw [q.lookup_run, if_neg hne]
        exact hm q' (List.mem_cons_of_mem _ hq')
      have hrun : ∀ rest, runReads (q :: qs) ⟨m, body ++ rest⟩ =
          runReads qs ⟨(q.run ⟨m, body⟩).rData, q.rest body ++ rest⟩ := by
        intro rest
        show runReads qs (q.run ⟨m, body ++ rest⟩) = _
        rw [hwithin.run_append]
      simp only [hrun]
      rw [ih hnodup hnext (q.rest body), ReadsWithin, and_iff_right hwithin]
    · refine iff_of_false (fun h => ?_) fun h => hwithin h.1
      obtain ⟨rest₁, rest₂, hne⟩ := BodyRead.exists_stored_ne hwithin
      -- nothing else is stored under the name
      have hlookup : ∀ rest, (runReads (q :: qs) ⟨m, body ++ rest⟩).rData.lookup q.name =
          q.stored (body ++ rest) := by
        intro rest
        show (runReads qs (q.run ⟨m, body ++ rest⟩)).rData.lookup q.name = _
        rw [lookup_runReads hname, q.lookup_run, if_pos rfl, hm q List.mem_cons_self,
          Option.or_none]
      exact hne (by rw [← hlookup, ← hlookup, h rest₁ rest₂])

/-! ### Packets -/

/-- What `parseBody` makes of a packet in memory. -/
theorem parseBody_bytes (nCommand : Word) (p : CmpPacket) (rest : Bytes) :
    parseBody nCommand (p.bytes ++ rest) =
      if p.cmpBody = [] then (-1, [])
      else ((runReads (bodyReads nCommand) ⟨[], p.cmpBody ++ rest⟩).rData.size,
        (runReads (bodyReads nCommand) ⟨[], p.cmpBody ++ rest⟩).rData) := by
  have hdrop : (p.bytes ++ rest).drop sizeofCmpHeader = p.cmpBody ++ rest := by
    rw [CmpPacket.bytes, List.append_assoc]
    exact List.drop_left' p.cmpHeader.length_bytes
  rw [parseBody, parseBodyWith, hdrop, bodyFields_eq, CmpPacket.bytes, List.append_assoc,
    CmpHeader.ofBytes_bytes, p.nBodyLen_eq]
  by_cases hnil : p.cmpBody = []
  · rw [if_pos hnil, hnil]
    rfl
  · have hpos := List.length_pos_of_ne_nil hnil
    rw [if_neg hnil, if_pos (by omega)]

/-- **The packet alone.** For every command and every packet, whatever is behind the packet in
memory, `parseBody` returns the same and stores the same, if and only if the packet has no body or
all reads of the command are within it. -/
theorem parseBody_packet_only_iff (nCommand : Word) (p : CmpPacket) :
    (∀ rest₁ rest₂, parseBody nCommand (p.bytes ++ rest₁) = parseBody nCommand (p.bytes ++ rest₂)) ↔
      p.cmpBody = [] ∨ ReadsWithin (bodyReads nCommand) p.cmpBody := by
  have hreads := readsWithin_iff (nodup_names nCommand) (m := []) (fun _ _ => rfl) p.cmpBody
  simp only [parseBody_bytes]
  by_cases hnil : p.cmpBody = []
  · simp only [if_pos hnil]
    exact iff_of_true (fun _ _ => trivial) (.inl hnil)
  · simp only [if_neg hnil]
    rw [or_iff_right hnil, ← hreads]
    constructor
    · intro h rest₁ rest₂
      exact (Prod.mk.inj (h rest₁ rest₂)).2
    · intro h rest₁ rest₂
      rw [h rest₁ rest₂]

/-- A bind request with the id `a` and no zero byte behind it. -/
def unterminatedBind : CmpPacket where
  cmpHeader := ⟨17#32, bindRequest, statusRok, 1#32⟩
  cmpBody := ascii "a"
  commandLength_eq := by decide
  cmpBody_le := by decide

/-- The id goes on behind the packet. -/
theorem parseBody_reads_on : ¬ ∀ (nCommand : Word) (p : CmpPacket) (rest₁ rest₂ : Bytes),
    parseBody nCommand (p.bytes ++ rest₁) = parseBody nCommand (p.bytes ++ rest₂) := by
  intro h
  exact absurd (h bindRequest unterminatedBind [0] (ascii "b")) (by decide)

end ControllerSystem.ControlCenter
