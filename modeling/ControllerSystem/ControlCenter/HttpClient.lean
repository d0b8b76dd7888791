import ControllerSystem.Lib.Tokens
import ControllerSystem.Lib.Words

/-!
# The responses the ControlCenter's HTTP client reads

`CHttpClient::post` sends a request and waits three times, up to a second each, for the response.
Every read begins at the front of the buffer anew, so only the last one is looked at. It is cut into
lines; each line that contains `HTTP/1.1` is taken for the status line, and each line from the first
empty one on for the body.

* `foldlM_onToken` — what the lines of a buffer make of the result;
* `tokens_text` — the lines of what was read last;
* `post_iff` — when the result is the code and the body of the response.
-/

open Words Tokens

namespace ControllerSystem.ControlCenter.HttpClient

/-! ### The code -/

/-- `HTTP_OK` and `HTTP_ERROR`. -/
def httpOk : ℤ := 0
def httpError : ℤ := 7

/-- `sizeof(recvline)`. -/
def sizeofRecvline : ℕ := 4097

/-- The entries of `mapData`. -/
@[ext]
structure MapData where
  code : Option Bytes
  body : Option Bytes
  deriving DecidableEq

/-- The state of the loop over the lines. -/
@[ext]
structure Parse where
  nRet : ℤ
  mapData : MapData
  bNextBody : Bool
  deriving DecidableEq

/-- The line contains `HTTP/1.1`. -/
def IsStatus (strToken : Bytes) : Bool := decide (ascii "HTTP/1.1" <:+: strToken)

/-- `strToken.substr( 9, 3 )`, where the line is long enough. -/
def codeOf (strToken : Bytes) : Bytes := (strToken.drop 9).take 3

/-- One line; the result is `none` when `substr` throws. -/
def onToken (s : Parse) (strToken : Bytes) : Option Parse :=
  let status : Option Parse :=
    if IsStatus strToken then
      if strToken.length < 9 then none
      else some { s with
        nRet := httpOk
        mapData := { s.mapData with code := some (codeOf strToken) } }
    else some s
  status.map fun s =>
    let bNextBody := s.bNextBody || strToken == [13]
    { s with
      bNextBody := bNextBody
      -- an entry of the map has the last line only
      mapData := if bNextBody then { s.mapData with body := some strToken } else s.mapData }

/-- The three waits: what was read, if anything was. -/
structure Rounds where
  first : Option Bytes
  second : Option Bytes
  third : Option Bytes

/-- The reads. -/
def Rounds.reads (rounds : Rounds) : List Bytes :=
  [rounds.first, rounds.second, rounds.third].filterMap id

/-- `memset` and `recv`. -/
def recv (bs : Bytes) : Bytes := bs ++ List.replicate (sizeofRecvline - bs.length) 0

/-- The buffer behind the reads; it is not initialised. -/
def recvline (uninitialised : Bytes) (rounds : Rounds) : Bytes :=
  rounds.reads.foldl (fun _ bs => recv bs) uninitialised

/-- `CHttpClient::post`, from the request on, with an empty `mapData`. -/
def post (uninitialised : Bytes) (rounds : Rounds) : Option (ℤ × MapData) :=
  let recvline := recvline uninitialised rounds
  if 0 < strlen recvline then
    ((tokens 10 (cstr recvline)).foldlM onToken ⟨httpError, ⟨none, none⟩, false⟩).map
      fun s => (s.nRet, s.mapData)
  else some (httpError, ⟨none, none⟩)

/-! ### Responses -/

/-- A character of a line. -/
def LineChar (b : UInt8) : Prop := b ≠ 0 ∧ b ≠ 10 ∧ b ≠ 13

/-- A well-formed response. -/
structure HttpResponse where
  code : Bytes
  reason : Bytes
  headers : List Bytes
  body : Bytes
  code_length : code.length = 3
  code_digits : ∀ b ∈ code, 48 ≤ b ∧ b ≤ 57
  reason_line : ∀ b ∈ reason, LineChar b
  headers_ne : ∀ h ∈ headers, h ≠ []
  headers_line : ∀ h ∈ headers, ∀ b ∈ h, LineChar b
  body_nul : 0 ∉ body

namespace HttpResponse

/-- The end of a line. -/
def crlf : Bytes := [13, 10]

def statusLine (R : HttpResponse) : Bytes := ascii "HTTP/1.1 " ++ R.code ++ [32] ++ R.reason

/-- The lines in front of the empty one, with their ends. -/
def head (R : HttpResponse) : Bytes := (R.statusLine :: R.headers).flatMap (· ++ crlf)

/-- The bytes of a response. -/
def text (R : HttpResponse) : Bytes := R.head ++ crlf ++ R.body

end HttpResponse

/-- The result is the code and the body of the response, and nothing is thrown. -/
def Delivers (R : HttpResponse) (result : Option (ℤ × MapData)) : Prop :=
  ∃ mapData : MapData, result = some (httpOk, mapData) ∧ mapData.code.getD [] = R.code ∧
    mapData.body.getD [] = R.body

/-! ### The loop over the lines -/

/-- What the lines make of the state. -/
def after (s : Parse) (ts : List Bytes) : Parse where
  nRet := if ts.filter IsStatus = [] then s.nRet else httpOk
  mapData :=
    ⟨(((ts.filter IsStatus).getLast?).map codeOf).or s.mapData.code,
      if s.bNextBody || ts.contains [13] then ts.getLast?.or s.mapData.body else s.mapData.body⟩
  bNextBody := s.bNextBody || ts.contains [13]

/-- One line. -/
theorem onToken_eq (s : Parse) (t : Bytes) :
    onToken s t = if IsStatus t ∧ t.length < 9 then none else some (after s [t]) := by
  obtain ⟨nRet, ⟨code, body⟩, bNextBody⟩ := s
  have hbody : [t].contains [13] = decide (t = [13]) := by
    rw [List.contains_eq_mem, decide_eq_decide, List.mem_singleton, eq_comm]
  by_cases hstatus : IsStatus t = true
  · by_cases hshort : t.length < 9
    · simp only [onToken, hstatus, hshort, if_true, and_self, Option.map_none]
    · have hfilter : [t].filter IsStatus = [t] := List.filter_cons_of_pos hstatus
      simp only [onToken, after, hstatus, hshort, hfilter, hbody]
      by_cases hnext : bNextBody = true <;> by_cases ht : t = [13] <;> simp [hnext, ht]
  · have hfilter : [t].filter IsStatus = [] := List.filter_cons_of_neg hstatus
    simp only [onToken, after, hstatus, hfilter, hbody]
    by_cases hnext : bNextBody = true <;> by_cases ht : t = [13] <;> simp [hnext, ht]

/-- The last of some lines, or what there was before them. -/
theorem getLast?_cons_or {α : Type} (a : α) (l : List α) (o : Option α) :
    (a :: l).getLast?.or o = l.getLast?.or (some a) := by
  rw [List.getLast?_cons]
  cases l.getLast? <;> rfl

/-- The first line, and then the others. -/
theorem after_cons (s : Parse) (t : Bytes) (ts : List Bytes) :
    after (after s [t]) ts = after s (t :: ts) := by
  obtain ⟨nRet, ⟨code, body⟩, bNextBody⟩ := s
  have hone : [t].contains [13] = decide ([13] = t) := by
    rw [List.contains_eq_mem, decide_eq_decide, List.mem_singleton]
  have hmem : (t :: ts).contains [13] = (decide ([13] = t) || ts.contains [13]) := by
    rw [List.contains_cons, beq_eq_decide]
  refine Parse.ext ?_ (MapData.ext ?_ ?_) ?_
  · simp only [after]
    by_cases ht : IsStatus t = true <;> by_cases hts : ts.filter IsStatus = [] <;> simp [ht, hts]
  · simp only [after]
    by_cases ht : IsStatus t = true
    · rw [List.filter_cons_of_pos ht, List.filter_cons_of_pos ht, List.getLast?_cons,
        List.getLast?_cons]
      cases (ts.filter IsStatus).getLast? <;> simp
    · rw [List.filter_cons_of_neg ht, List.filter_cons_of_neg ht]
      rfl
  · simp only [after, hone, hmem, getLast?_cons_or]
    by_cases hts : [13] ∈ ts
    · -- the last of them is the last of all
      have hlast := List.getLast?_eq_some_getLast (List.ne_nil_of_mem hts)
      simp [hts, hlast]
    · by_cases hnext : bNextBody = true <;> by_cases ht : [13] = t <;> simp [hnext, ht, hts]
  · simp only [after, hone, hmem]
    by_cases hnext : bNextBody = true <;> by_cases ht : [13] = t <;>
      by_cases hts : [13] ∈ ts <;> simp [hnext, ht, hts]

/-- **The loop.** It throws at a short line with `HTTP/1.1`; the code is that of the last such line,
and the body the last line of all. -/
theorem foldlM_onToken (s : Parse) (ts : List Bytes) :
    ts.foldlM onToken s =
      if ∀ t ∈ ts.filter IsStatus, 9 ≤ t.length then some (after s ts) else none := by
  induction ts generalizing s with
  | nil =>
    obtain ⟨nRet, ⟨code, body⟩, bNextBody⟩ := s
    simp [after]
  | cons t ts ih =>
    rw [List.foldlM_cons, onToken_eq]
    by_cases hthrow : IsStatus t = true ∧ t.length < 9
    · -- the short line is one of the lines
      rw [if_pos hthrow, if_neg]
      · rfl
      · intro hall
        have := hall t (List.mem_filter.mpr ⟨List.mem_cons_self, hthrow.1⟩)
        omega
    · have hall : (∀ t' ∈ (t :: ts).filter IsStatus, 9 ≤ t'.length) ↔
          ∀ t' ∈ ts.filter IsStatus, 9 ≤ t'.length := by
        rw [List.filter_cons]
        split
        · next hstatus =>
          rw [List.forall_mem_cons]
          exact and_iff_right (not_lt.mp fun hlt => hthrow ⟨hstatus, hlt⟩)
        · exact Iff.rfl
      rw [if_neg hthrow]
      show List.foldlM onToken (after s [t]) ts = _
      rw [ih, after_cons]
      exact if_congr hall.symm rfl rfl

/-! ### The last read -/

/-- What was read last. -/
def Rounds.lastRead (rounds : Rounds) : Bytes := rounds.reads.getLastD []

/-- The lines of a read that are taken for the status line are long enough, and the last of them
has the code of the response. -/
def StatusOf (R : HttpResponse) (bs : Bytes) : Prop :=
  (∀ t ∈ (tokens 10 bs).filter IsStatus, 9 ≤ t.length) ∧
    ∃ t, ((tokens 10 bs).filter IsStatus).getLast? = some t ∧ codeOf t = R.code

/-- A read begins at the front of the buffer. -/
theorem recvline_eq (uninitialised : Bytes) {rounds : Rounds} (hne : rounds.reads ≠ []) :
    recvline uninitialised rounds = recv rounds.lastRead := by
  have hconcat := List.dropLast_append_getLast hne
  rw [recvline, Rounds.lastRead, ← hconcat, List.foldl_append, List.getLastD_concat]
  rfl

/-- What was read is a text. -/
theorem cstr_recv {bs : Bytes} (hnul : 0 ∉ bs) (hlen : bs.length < sizeofRecvline) :
    cstr (recv bs) = bs := by
  obtain ⟨k, hk⟩ : ∃ k, sizeofRecvline - bs.length = k + 1 := ⟨_, (Nat.sub_add_cancel
    (Nat.sub_pos_of_lt hlen)).symm⟩
  rw [recv, hk, List.replicate_succ, cstr_append hnul]

/-- The result is made from the last read. -/
theorem post_eq (uninitialised : Bytes) {rounds : Rounds} (hne : rounds.reads ≠ [])
    (hnul : 0 ∉ rounds.lastRead) (hlen : rounds.lastRead.length < sizeofRecvline) :
    post uninitialised rounds =
      ((tokens 10 rounds.lastRead).foldlM onToken ⟨httpError, ⟨none, none⟩, false⟩).map
        fun s => (s.nRet, s.mapData) := by
  rw [post, recvline_eq uninitialised hne, strlen, cstr_recv hnul hlen]
  split
  · rfl
  · next hempty =>
    have hnil : rounds.lastRead = [] := List.length_eq_zero_iff.mp (by omega)
    rw [hnil]
    rfl

/-- When the lines of the last read deliver a response. -/
theorem delivers_iff (R : HttpResponse) (uninitialised : Bytes) {rounds : Rounds}
    (hne : rounds.reads ≠ []) (hnul : 0 ∉ rounds.lastRead)
    (hlen : rounds.lastRead.length < sizeofRecvline) :
    Delivers R (post uninitialised rounds) ↔ StatusOf R rounds.lastRead ∧
      (if [13] ∈ tokens 10 rounds.lastRead then (tokens 10 rounds.lastRead).getLast?
        else none).getD [] = R.body := by
  rw [post_eq uninitialised hne hnul hlen, foldlM_onToken, StatusOf, and_assoc]
  generalize tokens 10 rounds.lastRead = ts
  by_cases hall : ∀ t ∈ ts.filter IsStatus, 9 ≤ t.length
  · rw [if_pos hall, and_iff_right hall]
    cases hlast : (ts.filter IsStatus).getLast? with
    | none =>
      -- without a status line the result is an error
      have hnil := List.getLast?_eq_none_iff.mp hlast
      constructor
      · rintro ⟨mapData, hresult, -⟩
        have hret : (if ts.filter IsStatus = [] then httpError else httpOk) = httpOk :=
          congrArg Prod.fst (Option.some.inj hresult)
        rw [if_pos hnil] at hret
        exact absurd hret (by decide)
      · rintro ⟨⟨t, ht, -⟩, -⟩
        cases ht
    | some t =>
      have hcons : ts.filter IsStatus ≠ [] := by
        intro hnil
        rw [hnil] at hlast
        cases hlast
      have hafter : (after ⟨httpError, ⟨none, none⟩, false⟩ ts).mapData =
          ⟨some (codeOf t), if [13] ∈ ts then ts.getLast? else none⟩ := by
        simp [after, hlast]
      constructor
      · rintro ⟨mapData, hresult, hcode, hbody⟩
        have hmap : (after ⟨httpError, ⟨none, none⟩, false⟩ ts).mapData = mapData :=
          congrArg Prod.snd (Option.some.inj hresult)
        rw [← hmap, hafter] at hcode hbody
        exact ⟨⟨t, rfl, hcode⟩, hbody⟩
      · rintro ⟨⟨t', ht', hcode⟩, hbody⟩
        obtain rfl := Option.some.inj ht'
        refine ⟨_, congrArg some (Prod.ext (if_neg hcons) rfl), ?_, ?_⟩
        · rw [hafter]
          exact hcode
        · rw [hafter]
          exact hbody
  · rw [if_neg hall]
    refine iff_of_false ?_ fun h => hall h.1
    rintro ⟨mapData, hresult, -⟩
    cases hresult

/-! ### The lines of a response -/

/-- The lines of a read that holds the empty line and the body. -/
theorem tokens_text {x B : Bytes} (hx : x = [] ∨ ∃ x', x = x' ++ [10]) :
    ∃ ts, tokens 10 (x ++ 13 :: 10 :: B) = ts ++ [13] :: tokens 10 B := by
  have hempty : tokens 10 (13 :: 10 :: B) = [13] :: tokens 10 B :=
    tokens_append (l := [13]) (by decide)
  exact ⟨tokens 10 x, by rw [tokens_append_of_end hx, hempty]⟩

/-- Its last line is the body if that is a single line. -/
theorem getLast?_tokens_text {x B : Bytes} (hx : x = [] ∨ ∃ x', x = x' ++ [10]) :
    (if [13] ∈ tokens 10 (x ++ 13 :: 10 :: B) then (tokens 10 (x ++ 13 :: 10 :: B)).getLast?
      else none).getD [] = B ↔ B ≠ [] ∧ 10 ∉ B := by
  obtain ⟨ts, hts⟩ := tokens_text (B := B) hx
  have hmem : [13] ∈ ts ++ [13] :: tokens 10 B := List.mem_append_right _ List.mem_cons_self
  rw [hts, if_pos hmem, List.getLast?_append, List.getLast?_cons, Option.some_or, Option.getD_some]
  constructor
  · intro hB
    cases hlast : (tokens 10 B).getLast? with
    | none =>
      -- a body without a line is not the empty line before it
      rw [hlast, Option.getD_none] at hB
      rw [← hB]
      decide
    | some y =>
      rw [hlast, Option.getD_some] at hB
      have hy := mem_tokens (List.mem_of_getLast? hlast)
      rwa [hB] at hy
  · rintro ⟨hne, hline⟩
    rw [tokens_of_notMem hne hline]
    rfl

/-- A read that holds less than the empty line and the body delivers no body, if it has a status
line at all. -/
theorem not_body_of_short {bs B : Bytes} (hbs : bs <:+ 10 :: B)
    (hstatus : (tokens 10 bs).filter IsStatus ≠ []) :
    (if [13] ∈ tokens 10 bs then (tokens 10 bs).getLast? else none).getD [] ≠ B := by
  intro hB
  split at hB
  · next hmem =>
    -- a body that is one line, and the empty line, are then the same token
    obtain ⟨y, hy⟩ : ∃ y, (tokens 10 bs).getLast? = some y :=
      ⟨_, List.getLast?_eq_some_getLast (List.ne_nil_of_mem hmem)⟩
    rw [hy, Option.getD_some] at hB
    obtain ⟨hne, hline⟩ := mem_tokens (List.mem_of_getLast? hy)
    rw [hB] at hne hline
    have hone : ∃ z, tokens 10 bs = [z] := by
      rcases List.suffix_cons_iff.mp hbs with rfl | hsuffix
      · refine ⟨B, ?_⟩
        rw [show 10 :: B = [] ++ 10 :: B from rfl, tokens_concat, tokens_of_notMem hne hline]
        rfl
      · have hbs' : bs ≠ [] := by
          rintro rfl
          exact absurd hmem List.not_mem_nil
        exact ⟨bs, tokens_of_notMem hbs' fun h => hline (hsuffix.subset h)⟩
    obtain ⟨z, hz⟩ := hone
    rw [hz] at hmem hstatus
    obtain rfl := List.mem_singleton.mp hmem
    exact hstatus (by decide)
  · -- there is no body, and nothing but the end of a line has been read
    obtain rfl : B = [] := hB.symm
    rcases List.suffix_cons_iff.mp hbs with rfl | hsuffix
    · exact hstatus (by decide)
    · rw [List.suffix_nil.mp hsuffix] at hstatus
      exact hstatus rfl

namespace HttpResponse

variable (R : HttpResponse)

/-- The lines in front of the empty one end with the end of a line. -/
theorem exists_head_eq : ∃ H, R.head = H ++ [10] := by
  refine ⟨((R.statusLine :: R.headers).flatMap (· ++ crlf)).dropLast, ?_⟩
  have hlast : ∀ ls : List Bytes, ls ≠ [] → (ls.flatMap (· ++ crlf)).getLast? = some 10 := by
    intro ls
    induction ls with
    | nil => exact fun h => absurd rfl h
    | cons l ls ih =>
      intro _
      by_cases hls : ls = []
      · subst hls
        simp [crlf]
      · rw [List.flatMap_cons, List.getLast?_append, ih hls]
        rfl
  have h10 := hlast (R.statusLine :: R.headers) (List.cons_ne_nil _ _)
  exact (List.dropLast_append_getLast? 10 h10).symm

/-- A response contains no zero byte. -/
theorem zero_notMem_text : 0 ∉ R.text := by
  have hcode : 0 ∉ R.code := fun h => absurd (R.code_digits 0 h).1 (by decide)
  have hreason : 0 ∉ R.reason := fun h => (R.reason_line 0 h).1 rfl
  have hheaders : ∀ h ∈ R.headers, 0 ∉ h := fun h hh h0 => (R.headers_line h hh 0 h0).1 rfl
  have hstatus : 0 ∉ R.statusLine := by
    rw [statusLine, List.mem_append, List.mem_append, List.mem_append]
    rintro (((h | h) | h) | h)
    · exact absurd h (by decide)
    · exact hcode h
    · exact absurd h (by decide)
    · exact hreason h
  have hcrlf : 0 ∉ crlf := by decide
  rw [text, head, List.mem_append, List.mem_append, List.mem_flatMap]
  rintro ((⟨l, hl, h⟩ | h) | h)
  · rcases List.mem_append.mp h with h | h
    · rcases List.mem_cons.mp hl with rfl | hl
      · exact hstatus h
      · exact hheaders l hl h
    · exact hcrlf h
  · exact hcrlf h
  · exact R.body_nul h

end HttpResponse

/-- When the body is that of the response, for a read with a status line. -/
theorem body_iff (R : HttpResponse) {bs : Bytes} (hbs : bs <:+ R.text)
    (hstatus : (tokens 10 bs).filter IsStatus ≠ []) :
    (if [13] ∈ tokens 10 bs then (tokens 10 bs).getLast? else none).getD [] = R.body ↔
      R.body ≠ [] ∧ 10 ∉ R.body ∧ R.body.length + 2 ≤ bs.length := by
  obtain ⟨H, hH⟩ := R.exists_head_eq
  have htext : R.text = H ++ 10 :: 13 :: 10 :: R.body := by
    rw [HttpResponse.text, hH, HttpResponse.crlf, List.append_assoc, List.append_assoc]
    rfl
  by_cases hlen : R.body.length + 2 ≤ bs.length
  · -- the read ends with the empty line and the body
    have htail : 13 :: 10 :: R.body <:+ bs := by
      refine List.suffix_of_suffix_length_le ?_ hbs hlen
      exact ⟨H ++ [10], by rw [htext, List.append_assoc]; rfl⟩
    obtain ⟨x, rfl⟩ := htail
    have hx : x = [] ∨ ∃ x', x = x' ++ [10] := by
      rcases List.eq_nil_or_concat x with h | ⟨x', b, rfl⟩
      · exact .inl h
      · obtain ⟨pre, hpre⟩ := hbs
        have hcut : (pre ++ x') ++ [b] = H ++ [10] := by
          refine List.append_cancel_right
            (show (pre ++ x') ++ [b] ++ (13 :: 10 :: R.body) =
              H ++ [10] ++ (13 :: 10 :: R.body) from ?_)
          rw [htext, List.concat_eq_append] at hpre
          simpa only [List.append_assoc, List.singleton_append] using hpre
        obtain ⟨-, hb⟩ := List.append_inj' hcut rfl
        cases hb
        exact .inr ⟨x', List.concat_eq_append⟩
    rw [getLast?_tokens_text hx]
    exact ⟨fun h => ⟨h.1, h.2, hlen⟩, fun h => ⟨h.1, h.2.1⟩⟩
  · have hshort : bs <:+ 10 :: R.body := by
      refine List.suffix_of_suffix_length_le hbs ?_ ?_
      · exact ⟨H ++ [10, 13], by rw [htext, List.append_assoc]; rfl⟩
      · rw [List.length_cons]
        omega
    exact iff_of_false (not_body_of_short hshort hstatus) fun h => hlen h.2.2

/-- **When the response is delivered.** It is when the body is a single line that is not empty, the
last read holds the body and the empty line before it, and the last of its lines that contain
`HTTP/1.1` has the code where the status line has it, with no such line too short for one. -/
theorem post_iff (R : HttpResponse) (uninitialised : Bytes) {rounds : Rounds}
    (hcut : rounds.reads.flatten = R.text) (hlen : R.text.length < sizeofRecvline) :
    Delivers R (post uninitialised rounds) ↔
      R.body ≠ [] ∧ 10 ∉ R.body ∧ R.body.length + 2 ≤ rounds.lastRead.length ∧
        StatusOf R rounds.lastRead := by
  have hne : rounds.reads ≠ [] := by
    intro hnil
    rw [hnil] at hcut
    obtain ⟨H, hH⟩ := R.exists_head_eq
    rw [HttpResponse.text, hH] at hcut
    simp at hcut
  have hbs : rounds.lastRead <:+ R.text := by
    rw [← hcut, ← List.dropLast_append_getLast hne, List.flatten_append, List.flatten_singleton,
      Rounds.lastRead]
    refine ⟨rounds.reads.dropLast.flatten, ?_⟩
    rw [List.getLastD_eq_getLast?, List.getLast?_eq_some_getLast hne, Option.getD_some]
  have hnul : 0 ∉ rounds.lastRead := fun h => R.zero_notMem_text (hbs.subset h)
  have hlt : rounds.lastRead.length < sizeofRecvline := lt_of_le_of_lt hbs.length_le hlen
  rw [delivers_iff R uninitialised hne hnul hlt]
  constructor
  · rintro ⟨hstatus, hbody⟩
    obtain ⟨t, ht, -⟩ := hstatus.2
    have hfilter : (tokens 10 rounds.lastRead).filter IsStatus ≠ [] := by
      intro hnil
      rw [hnil] at ht
      cases ht
    obtain ⟨h₁, h₂, h₃⟩ := (body_iff R hbs hfilter).mp hbody
    exact ⟨h₁, h₂, h₃, hstatus⟩
  · rintro ⟨h₁, h₂, h₃, hstatus⟩
    obtain ⟨t, ht, -⟩ := hstatus.2
    have hfilter : (tokens 10 rounds.lastRead).filter IsStatus ≠ [] := by
      intro hnil
      rw [hnil] at ht
      cases ht
    exact ⟨hstatus, (body_iff R hbs hfilter).mpr ⟨h₁, h₂, h₃⟩⟩

/-- A response without headers. -/
def okResponse (body : Bytes) (body_nul : 0 ∉ body) : HttpResponse where
  code := ascii "200"
  reason := ascii "OK"
  headers := []
  body := body
  code_length := rfl
  code_digits := by
    intro b hb
    have hmem : b = 50 ∨ b = 48 := by simpa [ascii] using hb
    rcases hmem with rfl | rfl <;> exact ⟨by decide, by decide⟩
  reason_line := by
    intro b hb
    have hmem : b = 79 ∨ b = 75 := by simpa [ascii] using hb
    rcases hmem with rfl | rfl <;> exact ⟨by decide, by decide, by decide⟩
  headers_ne := fun h hh => absurd hh List.not_mem_nil
  headers_line := fun h hh => absurd hh List.not_mem_nil
  body_nul := body_nul

/-- Bodies of one line and of two, and one that is too short for a status line. -/
def oneLine : HttpResponse := okResponse (ascii "{}") (by decide)
def twoLines : HttpResponse := okResponse (ascii "a\nb") (by decide)
def shortLine : HttpResponse := okResponse (ascii "HTTP/1.1") (by decide)

/-- A response of which the body is a read of its own. -/
def bodyApart : Rounds := ⟨some (oneLine.head ++ HttpResponse.crlf), some (ascii "{}"), none⟩

/-- A response in one read, with its body in one line. -/
theorem post_oneLine : Delivers oneLine (post [] ⟨some oneLine.text, none, none⟩) :=
  (post_iff oneLine [] (List.append_nil _) (by decide)).mpr
    ⟨by decide, by decide, by decide, by decide, ascii "HTTP/1.1 200 OK\x0d", by decide, rfl⟩

/-- What a result delivers. -/
theorem Delivers.body_eq {R : HttpResponse} {n : ℤ} {mapData : MapData}
    (h : Delivers R (some (n, mapData))) : n = httpOk ∧ mapData.body.getD [] = R.body := by
  obtain ⟨m, hresult, -, hbody⟩ := h
  obtain ⟨rfl, rfl⟩ := Prod.mk.inj (Option.some.inj hresult)
  exact ⟨rfl, hbody⟩

/-- Of two lines only the second is delivered, a short line with `HTTP/1.1` lets `substr` throw, and
of two reads the first is lost. -/
theorem post_not :
    ¬ Delivers twoLines (post [] ⟨some twoLines.text, none, none⟩) ∧
    post [] ⟨some shortLine.text, none, none⟩ = none ∧
    bodyApart.reads.flatten = oneLine.text ∧ ¬ Delivers oneLine (post [] bodyApart) := by
  have htwo : post [] ⟨some twoLines.text, none, none⟩ =
      some (httpOk, ⟨some (ascii "200"), some (ascii "b")⟩) := by decide
  have hcut : post [] bodyApart = some (httpError, ⟨none, none⟩) := by decide
  refine ⟨fun h => ?_, by decide, rfl, fun h => ?_⟩
  · rw [htwo] at h
    exact absurd h.body_eq.2 (by decide)
  · rw [hcut] at h
    exact absurd h.body_eq.1 (by decide)

end ControllerSystem.ControlCenter.HttpClient
