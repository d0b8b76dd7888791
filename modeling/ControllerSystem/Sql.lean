import ControllerSystem.Lib.Words
import ControllerSystem.Lib.QuotedText

/-!
# The SQL texts of the ControlCenter

Every SQL statement of the ControlCenter is a text put together from fixed pieces, numbers, and
strings that came in a packet. The strings go between two single quotes as they are.

Each text is here twice: as the code concatenates it (`ControllerSql.text`, `CMdmHandler.loginSql`,
`CSignup.isExistSql`, `CSignup.insertSql`), and as a template of the quoted-text library, which
says what the text is meant as. A text lexes into what it is meant as if and only if none of its
strings contains a single quote (`SqlText.lex_text_iff`).
-/

open Words QuotedText

namespace ControllerSystem

/-- The single quote of SQL string literals. -/
def sqlQuote : UInt8 := 39

/-- `ConvertToString` for an `int`. -/
def convertToString (value : ℤ) : Bytes := ascii (toString value)

/-! ### The texts -/

/-- The statements on the table `controller`. -/
inductive ControllerSql
  /-- In `CControlCenter::cmpBind`. -/
  | deleteById (strId : Bytes)
  /-- In `CControlCenter::cmpBind`. -/
  | insert (strId : Bytes) (nSocket : ℤ)
  /-- In `CControlCenter::getControllerSocketFD`. -/
  | selectSocketFDById (strControllerID : Bytes)
  /-- In `CControlCenter::runEnquireLinkRequest`. -/
  | deleteBySocketFD (nSocketFD : ℤ)
  /-- In `CControlCenter::getBindSocket`. -/
  | selectBound
  deriving DecidableEq

/-- The text a statement is executed with. -/
def ControllerSql.text : ControllerSql → Bytes
  | .deleteById strId => ascii "DELETE FROM controller WHERE id = '" ++ strId ++ ascii "';"
  | .insert strId nSocket =>
    ascii "INSERT INTO controller(id, status, socket_fd, created_date)values('" ++ strId ++
      ascii "',1," ++ convertToString nSocket ++ ascii ",datetime());"
  | .selectSocketFDById strControllerID =>
    ascii "SELECT socket_fd FROM controller WHERE status = 1 and id = '" ++ strControllerID ++
      ascii "';"
  | .deleteBySocketFD nSocketFD =>
    ascii "DELETE FROM controller WHERE socket_fd = " ++ convertToString nSocketFD ++ ascii ";"
  | .selectBound => ascii "SELECT socket_fd FROM controller WHERE status = 1;"

/-- The query of `CMdmHandler::login`. -/
def CMdmHandler.loginSql (strAccount strPassword : Bytes) : Bytes :=
  ascii "select token from user where account = '" ++ strAccount ++ ascii "' and password = '" ++
    strPassword ++ ascii "'"

/-- The query of `CSignup::isExist`. -/
def CSignup.isExistSql (strId : Bytes) : Bytes :=
  ascii "SELECT id FROM user WHERE id = '" ++ strId ++ ascii "';"

/-- The strings `CSignup::insert` takes from the JSON text of a sign-up request; those that are
missing there stay empty. -/
structure CSignup.User where
  strId : Bytes
  strAppId : Bytes
  strMac : Bytes
  strOs : Bytes
  strPhone : Bytes
  strFbId : Bytes
  strFbName : Bytes
  strFbEmail : Bytes
  strFbAccount : Bytes
  strGAccount : Bytes
  strTAccount : Bytes

/-- The statement of `CSignup::insert`. -/
def CSignup.insertSql (u : CSignup.User) : Bytes :=
  ascii "INSERT INTO user(id,app_id,mac,os,phone,fb_id,fb_name,fb_email,fb_account," ++
    ascii "g_account,t_account) VALUES('" ++ u.strId ++ ascii "','" ++ u.strAppId ++
    ascii "','" ++ u.strMac ++ ascii "','" ++ u.strOs ++ ascii "','" ++ u.strPhone ++
    ascii "','" ++ u.strFbId ++ ascii "','" ++ u.strFbName ++ ascii "','" ++ u.strFbEmail ++
    ascii "','" ++ u.strFbAccount ++ ascii "','" ++ u.strGAccount ++ ascii "','" ++ u.strTAccount ++
    ascii "');"

/-- The texts into which strings of a packet go. -/
inductive SqlText
  | login (strAccount strPassword : Bytes)
  | bindDelete (strId : Bytes)
  | bindInsert (strId : Bytes) (nSocket : ℤ)
  | getControllerSocketFD (strControllerID : Bytes)
  | signupIsExist (strId : Bytes)
  | signupInsert (u : CSignup.User)

namespace SqlText

/-- The text, as the code builds it. -/
def text : SqlText → Bytes
  | login strAccount strPassword => CMdmHandler.loginSql strAccount strPassword
  | bindDelete strId => (ControllerSql.deleteById strId).text
  | bindInsert strId nSocket => (ControllerSql.insert strId nSocket).text
  | getControllerSocketFD strControllerID =>
    (ControllerSql.selectSocketFDById strControllerID).text
  | signupIsExist strId => CSignup.isExistSql strId
  | signupInsert u => CSignup.insertSql u

/-! ### What the texts are meant as -/

/-- The statement meant: fixed text and numbers, and the strings as literals. -/
def meant : SqlText → List (QuotedText.Part UInt8)
  | login strAccount strPassword =>
    [.text (ascii "select token from user where account = "), .value strAccount,
      .text (ascii " and password = "), .value strPassword]
  | bindDelete strId =>
    [.text (ascii "DELETE FROM controller WHERE id = "), .value strId, .text (ascii ";")]
  | bindInsert strId nSocket =>
    [.text (ascii "INSERT INTO controller(id, status, socket_fd, created_date)values("),
      .value strId, .text (ascii ",1," ++ convertToString nSocket ++ ascii ",datetime());")]
  | getControllerSocketFD strControllerID =>
    [.text (ascii "SELECT socket_fd FROM controller WHERE status = 1 and id = "),
      .value strControllerID, .text (ascii ";")]
  | signupIsExist strId =>
    [.text (ascii "SELECT id FROM user WHERE id = "), .value strId, .text (ascii ";")]
  | signupInsert u =>
    [.text (ascii "INSERT INTO user(id,app_id,mac,os,phone,fb_id,fb_name,fb_email,fb_account," ++
        ascii "g_account,t_account) VALUES("),
      .value u.strId, .text (ascii ","), .value u.strAppId, .text (ascii ","), .value u.strMac,
      .text (ascii ","), .value u.strOs, .text (ascii ","), .value u.strPhone, .text (ascii ","),
      .value u.strFbId, .text (ascii ","), .value u.strFbName, .text (ascii ","),
      .value u.strFbEmail, .text (ascii ","), .value u.strFbAccount, .text (ascii ","),
      .value u.strGAccount, .text (ascii ","), .value u.strTAccount, .text (ascii ");")]

/-- The strings that go into the text. -/
def strings : SqlText → List Bytes
  | login strAccount strPassword => [strAccount, strPassword]
  | bindDelete strId => [strId]
  | bindInsert strId _ => [strId]
  | getControllerSocketFD strControllerID => [strControllerID]
  | signupIsExist strId => [strId]
  | signupInsert u =>
    [u.strId, u.strAppId, u.strMac, u.strOs, u.strPhone, u.strFbId, u.strFbName, u.strFbEmail,
      u.strFbAccount, u.strGAccount, u.strTAccount]

@[simp] theorem values_meant (s : SqlText) : values s.meant = s.strings := by
  cases s <;> rfl

end SqlText

/-! ### Pieces of texts -/

theorem ascii_append (s t : String) : ascii (s ++ t) = ascii s ++ ascii t := by
  simp [ascii]

theorem ascii_quote : ascii "'" = [sqlQuote] := rfl

/-- A decimal number has no quote. -/
theorem sqlQuote_notMem_convertToString (n : ℤ) : sqlQuote ∉ convertToString n := by
  -- the codes of the digits are 48 to 57, and the quote's is 39
  have hnat : ∀ m : ℕ, sqlQuote ∉ ascii (Nat.repr m) := by
    intro m hm
    rw [ascii, Nat.repr, String.toList_ofList] at hm
    obtain ⟨c, hc, heq⟩ := List.mem_map.mp hm
    have hdigit := Nat.isDigit_of_mem_toDigits (by decide) (by decide) hc
    simp only [Char.isDigit, Bool.and_eq_true, decide_eq_true_eq] at hdigit
    have h48 : 48 ≤ c.toNat := hdigit.1
    have h57 : c.toNat ≤ 57 := hdigit.2
    have heq := congrArg UInt8.toNat heq
    rw [UInt8.toNat_ofNat', show sqlQuote.toNat = 39 from rfl] at heq
    omega
  cases n with
  | ofNat m => exact hnat m
  | negSucc m =>
    rw [convertToString, show toString (Int.negSucc m) = "-" ++ Nat.repr (m + 1) from rfl,
      ascii_append]
    intro hm
    rcases List.mem_append.mp hm with hm | hm
    · exact absurd hm (by decide)
    · exact hnat _ hm

/-! ### The texts and what they are meant as -/

namespace SqlText

/-- Each text is its template with the strings put between quotes as they are. -/
theorem text_eq_render (s : SqlText) : s.text = render sqlQuote s.meant := by
  -- the quotes are the ends of the fixed pieces of the code
  have hend : ascii "';" = [sqlQuote] ++ ascii ";" := by decide
  cases s with
  | login strAccount strPassword =>
    have h₁ : ascii "select token from user where account = '" =
        ascii "select token from user where account = " ++ [sqlQuote] := by decide +kernel
    have h₂ : ascii "' and password = '" =
        [sqlQuote] ++ (ascii " and password = " ++ [sqlQuote]) := by decide
    simp [text, CMdmHandler.loginSql, meant, render, Part.render, h₁, h₂, ascii_quote]
  | bindDelete strId =>
    have h₁ : ascii "DELETE FROM controller WHERE id = '" =
        ascii "DELETE FROM controller WHERE id = " ++ [sqlQuote] := by decide +kernel
    simp [text, ControllerSql.text, meant, render, Part.render, h₁, hend]
  | bindInsert strId nSocket =>
    have h₁ : ascii "INSERT INTO controller(id, status, socket_fd, created_date)values('" =
        ascii "INSERT INTO controller(id, status, socket_fd, created_date)values(" ++
          [sqlQuote] := by decide +kernel
    have h₂ : ascii "',1," = [sqlQuote] ++ ascii ",1," := by decide
    simp [text, ControllerSql.text, meant, render, Part.render, h₁, h₂]
  | getControllerSocketFD strControllerID =>
    have h₁ : ascii "SELECT socket_fd FROM controller WHERE status = 1 and id = '" =
        ascii "SELECT socket_fd FROM controller WHERE status = 1 and id = " ++ [sqlQuote] := by
      decide +kernel
    simp [text, ControllerSql.text, meant, render, Part.render, h₁, hend]
  | signupIsExist strId =>
    have h₁ : ascii "SELECT id FROM user WHERE id = '" =
        ascii "SELECT id FROM user WHERE id = " ++ [sqlQuote] := by decide +kernel
    simp [text, CSignup.isExistSql, meant, render, Part.render, h₁, hend]
  | signupInsert u =>
    have h₁ : ascii "g_account,t_account) VALUES('" =
        ascii "g_account,t_account) VALUES(" ++ [sqlQuote] := by decide
    have h₂ : ascii "','" = [sqlQuote] ++ (ascii "," ++ [sqlQuote]) := by decide
    have h₃ : ascii "');" = [sqlQuote] ++ ascii ");" := by decide
    -- the text is too long for `simp` to unfold, so the rewriting is done step by step
    unfold text meant
    delta CSignup.insertSql
    rw [h₁, h₂, h₃]
    simp only [render, Part.render, List.flatMap_cons, List.flatMap_nil, List.append_assoc,
      List.cons_append, List.nil_append, List.append_nil]

/-- The fixed pieces have no quote, and one stands behind every string but a last one. -/
theorem separated_meant (s : SqlText) : Separated sqlQuote s.meant := by
  cases s with
  | login => exact ⟨by decide +kernel, by decide, by decide, trivial⟩
  | bindDelete => exact ⟨by decide +kernel, by decide, by decide, trivial⟩
  | bindInsert strId nSocket =>
    -- the piece behind the identifier has the socket's number in it
    refine ⟨by decide +kernel, by simp [ascii], ?_, trivial⟩
    intro hm
    rcases List.mem_append.mp hm with hm | hm
    · rcases List.mem_append.mp hm with hm | hm
      · exact absurd hm (by decide)
      · exact sqlQuote_notMem_convertToString nSocket hm
    · exact absurd hm (by decide)
  | getControllerSocketFD => exact ⟨by decide +kernel, by decide, by decide, trivial⟩
  | signupIsExist => exact ⟨by decide +kernel, by decide, by decide, trivial⟩
  | signupInsert u =>
    -- ten commas separate the eleven strings
    have hcomma : ascii "," ≠ [] ∧ sqlQuote ∉ ascii "," := by decide
    exact ⟨by decide +kernel, hcomma.1, hcomma.2, hcomma.1, hcomma.2, hcomma.1, hcomma.2, hcomma.1,
      hcomma.2, hcomma.1, hcomma.2, hcomma.1, hcomma.2, hcomma.1, hcomma.2, hcomma.1, hcomma.2,
      hcomma.1, hcomma.2, hcomma.1, hcomma.2, by decide, by decide, trivial⟩

/-- **Quoting in the SQL texts.** For all strings, a text lexes into the statement it is meant as,
with each string as one literal, if and only if none of the strings contains a single quote. -/
theorem lex_text_iff (s : SqlText) :
    lex sqlQuote s.text = lexemes s.meant ↔ ∀ v ∈ s.strings, sqlQuote ∉ v := by
  rw [text_eq_render, lex_render_iff (separated_meant s), values_meant]

/-- An account that closes its literal and goes on with a condition. -/
theorem lex_login_ne_meant :
    lex sqlQuote (login (ascii "x' or '1'='1") (ascii "p")).text ≠
      lexemes (login (ascii "x' or '1'='1") (ascii "p")).meant := by
  rw [text_eq_render, Ne, lex_render_iff (separated_meant _)]
  intro h
  exact absurd (h (ascii "x' or '1'='1") (by simp [strings])) (by decide)

end SqlText
end ControllerSystem
