/-
  NodeClient.Proofs.Url.Masking
  ─────────────────────────────
  **The name of an endpoint in logs tells what may be told of it, and no more.**

  Two web addresses that look the same but for their secrets (`Alike`) have one name in logs, and
  a name in logs looks like the address it stands for: so the names are equal exactly if the
  addresses are alike (`masked_eq_iff`).  What is secret of a query is decided piece by piece:

      key=value  →  key=xxxxx      up to the first equals sign it is open
      key        →  key            without one it is open altogether

  The name is also what one gets by setting the password, the path and the query of the address
  anew, one after the other (`masked_eq_redacted`): setting a part escapes it, but nothing is left
  to escape.
-/
import NodeClient.Proofs.Text.Split
import NodeClient.Proofs.Url.Reading

namespace NodeClient

namespace Url

/-! ## §1. Queries, piece by piece. -/

/-- What is open of a piece of a query. -/
def openPart (piece : List Char) : List Char :=
  match Text.cut? '=' piece with
  | some (key, _) => key ++ ['=']
  | none => piece

/-- What is open of a query. -/
def openParts (query : List Char) : List (List Char) := (Text.splitAt '&' query).map openPart

section Pieces

variable {piece key : List Char}

theorem openPart_of_value (hkey : '=' ∉ key) (value : List Char) :
    openPart (key ++ '=' :: value) = key ++ ['='] := by
  unfold openPart
  rw [Text.cut?_append hkey]

theorem openPart_of_no_value (h : '=' ∉ piece) : openPart piece = piece := by
  unfold openPart
  rw [Text.cut?_eq_none_iff.mpr h]

theorem veilPiece_of_value (hkey : '=' ∉ key) (value : List Char) :
    veilPiece (key ++ '=' :: value) = key ++ '=' :: veil := by
  unfold veilPiece
  rw [Text.cut?_append hkey]

theorem veilPiece_of_no_value (h : '=' ∉ piece) : veilPiece piece = piece := by
  unfold veilPiece
  rw [Text.cut?_eq_none_iff.mpr h]

/-- A piece either has a key and a value, or no equals sign. -/
theorem piece_cases (piece : List Char) :
    (∃ key value, piece = key ++ '=' :: value ∧ '=' ∉ key) ∨ '=' ∉ piece := by
  cases hcut : Text.cut? '=' piece with
  | some parts => exact .inl ⟨parts.1, parts.2, Text.cut?_eq_some_iff.mp hcut⟩
  | none => exact .inr (Text.cut?_eq_none_iff.mp hcut)

/-- What is open of a piece says already whether something has to be veiled behind it. -/
theorem veilPiece_eq (piece : List Char) :
    veilPiece piece =
      if '=' ∈ openPart piece then openPart piece ++ veil else openPart piece := by
  rcases piece_cases piece with ⟨key, value, rfl, hkey⟩ | hnone
  · rw [openPart_of_value hkey, veilPiece_of_value hkey, if_pos (List.mem_append_right key
      List.mem_cons_self), List.append_assoc]
    rfl
  · -- all of the piece is open, and it has no equals sign
    rw [openPart_of_no_value hnone, veilPiece_of_no_value hnone, if_neg hnone]

theorem openPart_veilPiece (piece : List Char) : openPart (veilPiece piece) = openPart piece := by
  rcases piece_cases piece with ⟨key, value, rfl, hkey⟩ | hnone
  · rw [veilPiece_of_value hkey, openPart_of_value hkey, openPart_of_value hkey]
  · rw [veilPiece_of_no_value hnone]

/-- A veiled piece has no characters that the piece or the veil does not have. -/
theorem mem_veilPiece {c : Char} (h : c ∈ veilPiece piece) : c ∈ piece ∨ c ∈ veil := by
  rcases piece_cases piece with ⟨key, value, rfl, hkey⟩ | hnone
  · rw [veilPiece_of_value hkey, List.mem_append, List.mem_cons] at h
    rcases h with h | rfl | h
    · exact .inl (List.mem_append_left _ h)
    · exact .inl (List.mem_append_right key List.mem_cons_self)
    · exact .inr h
  · rw [veilPiece_of_no_value hnone] at h
    exact .inl h

end Pieces

section Queries

variable {query other : List Char}

/-- Veiling keeps the pieces apart that were apart. -/
theorem splitAt_veilQuery (query : List Char) :
    Text.splitAt '&' (veilQuery query) = (Text.splitAt '&' query).map veilPiece := by
  refine Text.splitAt_joinWith ?_ ?_
  · intro h
    exact Text.splitAt_ne_nil '&' query (List.map_eq_nil_iff.mp h)
  · intro veiled hveiled hmark
    obtain ⟨piece, hpiece, rfl⟩ := List.mem_map.mp hveiled
    -- the mark would have been in the piece already, as it is not in the veil
    rcases mem_veilPiece hmark with h | h
    · exact (Text.mem_of_mem_splitAt hpiece '&' h).2 rfl
    · exact absurd h (by decide)

/-- A query keeps its pieces, their order and their keys. -/
theorem openParts_veilQuery (query : List Char) : openParts (veilQuery query) = openParts query := by
  unfold openParts
  rw [splitAt_veilQuery, List.map_map]
  exact List.map_congr_left fun piece _ => openPart_veilPiece piece

/-- What is open of a query decides how it is veiled. -/
theorem veilQuery_congr (h : openParts query = openParts other) :
    veilQuery query = veilQuery other := by
  have hveil : ∀ q : List Char, (Text.splitAt '&' q).map veilPiece =
      (openParts q).map fun part => if '=' ∈ part then part ++ veil else part := by
    intro q
    unfold openParts
    rw [List.map_map]
    exact List.map_congr_left fun piece _ => veilPiece_eq piece
  unfold veilQuery
  rw [hveil, hveil, h]

/-- Where everything in a query stands for itself, it still does when veiled. -/
theorem stands_veilQuery (h : ∀ c ∈ query, stands inWebQuery c = true) :
    ∀ c ∈ veilQuery query, stands inWebQuery c = true := by
  have hveil : ∀ c ∈ '&' :: veil, stands inWebQuery c = true :=
    List.all_eq_true.mp (by decide)
  intro c hc
  rcases Text.mem_joinWith hc with rfl | ⟨veiled, hveiled, hc⟩
  · exact hveil '&' List.mem_cons_self
  · obtain ⟨piece, hpiece, rfl⟩ := List.mem_map.mp hveiled
    rcases mem_veilPiece hc with hc | hc
    · exact h c (Text.mem_of_mem_splitAt hpiece c hc).1
    · exact hveil c (List.mem_cons_of_mem '&' hc)

end Queries

/-! ## §2. Addresses that are alike but for their secrets. -/

/-- The user name; no user name is an empty one. -/
def username (u : Url) : List Char := (u.authority.map Authority.username).getD []

def password? (u : Url) : Option (List Char) := u.authority.bind Authority.password

def host? (u : Url) : Option Host := u.authority.map Authority.host

/-- The port, unless the scheme implies it. -/
def port? (u : Url) : Option UInt16 := u.authority.bind Authority.port

/-- Two URLs differ at most in their passwords, in paths that are not the root, and in the values
of their queries. -/
structure Alike (u v : Url) : Prop where
  scheme : u.scheme = v.scheme
  username : u.username = v.username
  password : u.password?.isSome = v.password?.isSome
  host : u.host? = v.host?
  port : u.port? = v.port?
  path : u.path = ['/'] ↔ v.path = ['/']
  query : u.query.map openParts = v.query.map openParts
  fragment : u.fragment = v.fragment

variable {u v w : Url}

theorem Alike.symm (h : u.Alike v) : v.Alike u :=
  ⟨h.scheme.symm, h.username.symm, h.password.symm, h.host.symm, h.port.symm, h.path.symm,
    h.query.symm, h.fragment.symm⟩

theorem Alike.trans (huv : u.Alike v) (hvw : v.Alike w) : u.Alike w :=
  ⟨huv.scheme.trans hvw.scheme, huv.username.trans hvw.username,
    huv.password.trans hvw.password, huv.host.trans hvw.host, huv.port.trans hvw.port,
    huv.path.trans hvw.path, huv.query.trans hvw.query, huv.fragment.trans hvw.fragment⟩

/-- Behind an authority a path is veiled to a single segment. -/
theorem veiledPath_of_authority (h : u.authority.isSome = true) :
    u.veiledPath = if u.path = [] ∨ u.path = ['/'] then u.path else '/' :: veil := by
  unfold veiledPath hasSegments
  rw [h, Bool.true_or, if_pos rfl]

theorem IsWebAddress.authority_isSome (h : u.IsWebAddress) : u.authority.isSome = true := by
  obtain ⟨a, ha, _⟩ := h.authority
  rw [ha]
  rfl

/-- The path of a web address is veiled unless it is the root. -/
theorem IsWebAddress.veiledPath_eq (h : u.IsWebAddress) :
    u.veiledPath = if u.path = ['/'] then ['/'] else '/' :: veil := by
  obtain ⟨below, hbelow⟩ := h.path
  have hne : u.path ≠ [] := by
    rw [hbelow]
    exact List.cons_ne_nil _ _
  rw [veiledPath_of_authority h.authority_isSome]
  by_cases hroot : u.path = ['/']
  · rw [if_pos (.inr hroot), if_pos hroot, hroot]
  · rw [if_neg (not_or.mpr ⟨hne, hroot⟩), if_neg hroot]

theorem username_masked (u : Url) : u.masked.username = u.username := by
  unfold username masked
  cases u.authority with
  | none => rfl
  | some a => rfl

theorem password?_masked (u : Url) : u.masked.password?.isSome = u.password?.isSome := by
  unfold password? masked
  cases u.authority with
  | none => rfl
  | some a => exact Option.isSome_map

theorem host?_masked (u : Url) : u.masked.host? = u.host? := by
  unfold host? masked
  rw [Option.map_map]
  rfl

theorem port?_masked (u : Url) : u.masked.port? = u.port? := by
  unfold port? masked
  cases u.authority with
  | none => rfl
  | some a => rfl

/-- The name in logs looks like the address. -/
theorem IsWebAddress.masked_alike (h : u.IsWebAddress) : u.masked.Alike u := by
  refine ⟨rfl, u.username_masked, u.password?_masked, u.host?_masked, u.port?_masked, ?_, ?_, rfl⟩
  · show u.veiledPath = ['/'] ↔ u.path = ['/']
    rw [h.veiledPath_eq]
    by_cases hroot : u.path = ['/']
    · rw [if_pos hroot]
      exact iff_of_true rfl hroot
    · rw [if_neg hroot]
      exact iff_of_false (by decide) hroot
  · show Option.map openParts (u.query.map veilQuery) = u.query.map openParts
    rw [Option.map_map]
    exact congrArg (fun f => u.query.map f) (funext openParts_veilQuery)

/-- A masked web address is a web address in its normal form again. -/
theorem IsWebAddress.masked (h : u.IsWebAddress) : u.masked.IsWebAddress := by
  obtain ⟨a, ha, hhost⟩ := h.authority
  refine ⟨h.web, ⟨{ a with password := a.password.map fun _ => veil }, ?_, hhost⟩, ?_, ?_⟩
  · unfold Url.masked
    rw [ha]
    rfl
  · show ∃ below, u.veiledPath = '/' :: below
    rw [h.veiledPath_eq]
    by_cases hroot : u.path = ['/']
    · rw [if_pos hroot]
      exact ⟨[], rfl⟩
    · rw [if_neg hroot]
      exact ⟨veil, rfl⟩
  · intro veiled hveiled
    obtain ⟨query, hquery, rfl⟩ := Option.map_eq_some_iff.mp hveiled
    exact stands_veilQuery (h.query query hquery)

/-- What is veiled altogether is as good as any other. -/
theorem veiled_congr {p q : Option (List Char)} (h : p.isSome = q.isSome) :
    (p.map fun _ => veil) = q.map fun _ => veil := by
  cases p with
  | none =>
      rw [Option.isNone_iff_eq_none.mp (Option.isSome_eq_false_iff.mp h.symm)]
  | some password =>
      obtain ⟨other, hq⟩ := Option.isSome_iff_exists.mp h.symm
      rw [hq]
      rfl

/-- Where the open parts agree, the veiled queries do. -/
theorem veiledQuery_congr {p q : Option (List Char)} (h : p.map openParts = q.map openParts) :
    p.map veilQuery = q.map veilQuery := by
  cases p with
  | none =>
      rw [Option.map_eq_none_iff.mp h.symm]
  | some query =>
      obtain ⟨other, hq, hother⟩ := Option.map_eq_some_iff.mp h.symm
      rw [hq, Option.map_some, Option.map_some, veilQuery_congr hother]

/-- Alike addresses have one name in logs. -/
theorem IsWebAddress.masked_congr (hu : u.IsWebAddress) (hv : v.IsWebAddress) (h : u.Alike v) :
    u.masked = v.masked := by
  obtain ⟨a, ha, _⟩ := hu.authority
  obtain ⟨b, hb, _⟩ := hv.authority
  -- both have an authority, so what is alike of them is alike of these
  have hauthority : u.masked.authority = v.masked.authority := by
    have husername : a.username = b.username := by
      have := h.username
      unfold Url.username at this
      rwa [ha, hb] at this
    have hpassword : a.password.isSome = b.password.isSome := by
      have := h.password
      unfold password? at this
      rwa [ha, hb] at this
    have hhost : a.host = b.host := by
      have := h.host
      unfold host? at this
      rw [ha, hb] at this
      exact Option.some.inj this
    have hport : a.port = b.port := by
      have := h.port
      unfold port? at this
      rwa [ha, hb] at this
    unfold Url.masked
    rw [ha, hb, Option.map_some, Option.map_some, husername, hhost, hport, veiled_congr hpassword]
  have hpath : u.veiledPath = v.veiledPath := by
    simp only [hu.veiledPath_eq, hv.veiledPath_eq, h.path]
  have hquery : u.masked.query = v.masked.query := veiledQuery_congr h.query
  show Url.mk u.scheme u.masked.authority u.veiledPath u.masked.query u.fragment =
    Url.mk v.scheme v.masked.authority v.veiledPath v.masked.query v.fragment
  rw [h.scheme, hauthority, hpath, hquery, h.fragment]

/-- Two names in logs are the same exactly if the addresses are alike. -/
theorem masked_eq_iff (hu : u.IsWebAddress) (hv : v.IsWebAddress) :
    u.masked = v.masked ↔ u.Alike v := by
  constructor
  · intro h
    -- the name that both have in logs looks like either of them
    have hshared : u.masked.Alike v := by
      rw [h]
      exact hv.masked_alike
    exact hu.masked_alike.symm.trans hshared
  · exact hu.masked_congr hv

/-! ## §3. Parts set anew. -/

/-- The URL with another password; an empty one is none. -/
def withPassword (u : Url) (password : List Char) : Url :=
  let escaped := if password = [] then none else some (escape inUserinfo password)
  { u with authority := u.authority.map fun a => { a with password := escaped } }

/-- A text without tabs and line ends. -/
def unbroken (s : List Char) : List Char := s.filter fun c => c != '\t' && c != '\n' && c != '\r'

/-- The web address with another path; a slash in front does not count. -/
def withPath (u : Url) (path : List Char) : Url :=
  let below := match unbroken path with
    | [] => []
    | c :: rest => if isSlash true c then rest else c :: rest
  { u with path := pathOf true below }

/-- The web address with another query. -/
def withQuery (u : Url) (query : List Char) : Url :=
  { u with query := some (escape inWebQuery (unbroken query)) }

/-- The password set anew, if there is one. -/
def redactPassword (u : Url) : Url := if u.password?.isSome then u.withPassword veil else u

/-- The path set anew, unless it is empty or the root. -/
def redactPath (u : Url) : Url := if u.path = [] ∨ u.path = ['/'] then u else u.withPath veil

/-- The query set anew, if there is one. -/
def redactQuery (u : Url) : Url :=
  match u.query with
  | some query => u.withQuery (veilQuery query)
  | none => u

/-- The web address with all parts set anew that have something to veil. -/
def redacted (u : Url) : Url := u.redactPassword.redactPath.redactQuery

/-- Tabs and line ends are controls. -/
theorem unbroken_of_stands {s : List Char} (h : ∀ c ∈ s, stands inWebQuery c = true) :
    unbroken s = s := by
  have hbreaks : ∀ c ∈ ['\t', '\n', '\r'], stands inWebQuery c ≠ true := by
    simp [stands, inWebQuery, inQuery, isControl]
  have hne : ∀ c ∈ s, c ∉ ['\t', '\n', '\r'] := by
    intro c hc hbreak
    exact hbreaks c hbreak (h c hc)
  unfold unbroken
  rw [List.filter_eq_self]
  intro c hc
  simpa [and_assoc] using hne c hc

/-- The veil has nothing to escape as a password. -/
theorem redactPassword_eq (u : Url) :
    u.redactPassword = { u with authority := u.masked.authority } := by
  have hescape : escape inUserinfo veil = veil := by decide
  obtain ⟨scheme, authority, path, query, fragment⟩ := u
  cases authority with
  | none => rfl
  | some a =>
      obtain ⟨username, password, host, port⟩ := a
      cases password with
      | none => rfl
      | some password =>
          show withPassword _ veil = _
          unfold withPassword
          rw [hescape]
          rfl

/-- The veil is a path of one segment. -/
theorem redactPath_eq (u : Url) :
    u.redactPath =
      { u with path := if u.path = [] ∨ u.path = ['/'] then u.path else '/' :: veil } := by
  have hpath : pathOf true veil = '/' :: veil := by decide
  unfold redactPath
  by_cases hroot : u.path = [] ∨ u.path = ['/']
  · rw [if_pos hroot, if_pos hroot]
  · rw [if_neg hroot, if_neg hroot, ← hpath]
    rfl

/-- A veiled query has nothing to escape if the query has not. -/
theorem redactQuery_eq (h : ∀ q, u.query = some q → ∀ c ∈ q, stands inWebQuery c = true) :
    u.redactQuery = { u with query := u.query.map veilQuery } := by
  obtain ⟨scheme, authority, path, query, fragment⟩ := u
  cases query with
  | none => rfl
  | some query =>
      have hstands := stands_veilQuery (h query rfl)
      show withQuery _ (veilQuery query) = _
      unfold withQuery
      rw [unbroken_of_stands hstands, escape_of_stands hstands]
      rfl

/-- The name in logs is the address with its parts set anew. -/
theorem masked_eq_redacted (h : u.IsWebAddress) : u.masked = u.redacted := by
  unfold redacted
  rw [redactPassword_eq, redactPath_eq]
  -- the query is the one of `u` still, so there is nothing to escape in it
  refine Eq.trans ?_ (redactQuery_eq ?_).symm
  · show { u.masked with path := u.veiledPath } = _
    rw [veiledPath_of_authority h.authority_isSome]
    rfl
  · exact h.query

end Url

end NodeClient
