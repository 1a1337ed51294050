/-
  NodeClient.Proofs.Url.Reading
  ─────────────────────────────
  **What is known of a web address because it has been read.**

  It has a host, which has a name unless it is an address; its path starts at the root; and
  everything in its query stands for itself, since the reader has escaped the rest.  This and the
  place of the scheme are all that is used of a reader (`ReadsUrls`), and they hold of the one of
  the client (`readsUrls_parse`).  Taking the last slash off the path changes nothing about this,
  so all endpoints with a web scheme are such addresses (`ReadsUrls.isWebAddress_of_endpointBy`).
-/
import NodeClient.Client.Config
import NodeClient.Proofs.Result
import NodeClient.Proofs.Text.Split

namespace NodeClient

/-! ## §1. Characters that stand for themselves. -/

namespace Url

/-- Whether a character is ASCII and not one of the set, so that it is not escaped. -/
def stands (set : Char → Bool) (c : Char) : Bool := c.toNat < 0x80 && !set c

variable {set : Char → Bool}

theorem escapeChar_of_stands {c : Char} (h : stands set c = true) : escapeChar set c = [c] :=
  if_pos h

/-- A text in which everything stands for itself is written as it is. -/
theorem escape_of_stands {s : List Char} (h : ∀ c ∈ s, stands set c = true) : escape set s = s := by
  unfold escape
  induction s with
  | nil => rfl
  | cons c rest ih =>
      obtain ⟨hc, hrest⟩ := List.forall_mem_cons.mp h
      rw [List.flatMap_cons, escapeChar_of_stands hc, ih hrest]
      rfl

/-- The characters that escapes are made of. -/
def escapeSigns : List Char := "%0123456789ABCDEF".toList

theorem upperDigit_mem_escapeSigns : ∀ n < 16, upperDigit n ∈ escapeSigns := by decide

theorem mem_escapeByte {b : UInt8} {c : Char} (h : c ∈ escapeByte b) : c ∈ escapeSigns := by
  have hhigh : b.toNat / 16 < 16 := by
    have := b.toNat_lt
    omega
  have hlow : b.toNat % 16 < 16 := Nat.mod_lt _ (by decide)
  unfold escapeByte at h
  rw [List.mem_cons, List.mem_cons, List.mem_singleton] at h
  rcases h with rfl | rfl | rfl
  · decide
  · exact upperDigit_mem_escapeSigns _ hhigh
  · exact upperDigit_mem_escapeSigns _ hlow

/-- In a text that has been escaped everything stands for itself, as escapes do. -/
theorem stands_of_mem_escape (hsigns : ∀ c ∈ escapeSigns, stands set c = true) {s : List Char} :
    ∀ c ∈ escape set s, stands set c = true := by
  intro c hc
  obtain ⟨d, _, hd⟩ := List.mem_flatMap.mp hc
  by_cases hstands : stands set d = true
  · rw [escapeChar_of_stands hstands, List.mem_singleton] at hd
    rw [hd]
    exact hstands
  · have hescaped : escapeChar set d = (String.utf8EncodeChar d).flatMap escapeByte :=
      if_neg hstands
    rw [hescaped] at hd
    obtain ⟨b, _, hb⟩ := List.mem_flatMap.mp hd
    exact hsigns c (mem_escapeByte hb)

theorem stands_escapeSigns : ∀ c ∈ escapeSigns, stands inWebQuery c = true :=
  List.all_eq_true.mp (by decide)

end Url

/-! ## §2. Hosts. -/

theorem Host.ofBrackets_ne_empty {rest : List Char} {host : Host}
    (h : Host.ofBrackets rest = .ok host) : host ≠ .name [] := by
  unfold Host.ofBrackets at h
  split at h
  · cases h
    exact fun hname => by cases hname
  · cases h

/-- The host of a web address is never a name without letters. -/
theorem Host.ofWeb_ne_empty {s : List Char} {host : Host} (h : Host.ofWeb s = .ok host) :
    host ≠ .name [] := by
  unfold Host.ofWeb at h
  split at h
  · exact Host.ofBrackets_ne_empty h
  · split at h
    · next text _ =>
        obtain ⟨domain, _, h⟩ := (bind_eq_ok_iff _ _ _).mp h
        obtain ⟨hdomain, h⟩ := of_check_eq_ok h
        split at h
        · split at h
          · cases h
            exact fun hname => by cases hname
          · cases h
        · cases h
          intro hname
          cases hname
          exact hdomain rfl
    · cases h

namespace Url

variable {scheme : List Char} {followed : Bool} {s : List Char} {a : Authority} {u : Url}

/-- The authority of a web address has the host that stands in it. -/
theorem readAuthority_of_web (hweb : isWebScheme scheme = true) {extra : List Char}
    (h : readAuthority scheme followed s = .ok (a, extra)) : ∃ text, Host.ofWeb text = .ok a.host := by
  unfold readAuthority at h
  split at h
  next userinfo place _ =>
  replace h := (of_check_eq_ok h).2
  split at h
  next username password _ =>
  split at h
  next hostText portText _ =>
  replace h := (of_check_eq_ok h).2
  replace h : (if isWebScheme scheme = true then _ else _) = Except.ok (a, extra) := h
  rw [if_pos hweb] at h
  obtain ⟨host, hhost, h⟩ := (bind_eq_ok_iff _ _ _).mp h
  replace h := (of_check_eq_ok h).2
  refine ⟨hostText, ?_⟩
  -- the host has been read before the port, which does not change it
  cases portText with
  | some text =>
      obtain ⟨port, _, h⟩ := (bind_eq_ok_iff _ _ _).mp h
      cases (of_check_eq_ok h).2
      exact hhost
  | none =>
      obtain ⟨port, _, h⟩ := (bind_eq_ok_iff _ _ _).mp h
      cases (of_check_eq_ok h).2
      exact hhost

theorem pathOf_eq_cons (web : Bool) (s : List Char) : ∃ below, pathOf web s = '/' :: below :=
  ⟨_, rfl⟩

/-- Behind the authority of a web address the path starts at the root. -/
theorem readPlace_of_web (hweb : isWebScheme scheme = true) {path : List Char}
    (h : readPlace scheme followed s = .ok (a, path)) :
    a.host ≠ .name [] ∧ ∃ below, path = '/' :: below := by
  obtain ⟨⟨authority, extra⟩, hauthority, h⟩ := (bind_eq_ok_iff _ _ _).mp h
  obtain ⟨text, htext⟩ := readAuthority_of_web hweb hauthority
  dsimp only at h
  split at h
  · cases h
    exact ⟨Host.ofWeb_ne_empty htext, [], if_pos hweb⟩
  · cases h
    exact ⟨Host.ofWeb_ne_empty htext, pathOf_eq_cons _ _⟩

/-! ## §3. What stands in front. -/

/-- Nothing is dropped in front of a character that stays. -/
theorem dropWhile_append_of_none {p : Char → Bool} {lead : List Char} (hne : lead ≠ [])
    (h : ∀ c ∈ lead, p c = false) (s : List Char) : (lead ++ s).dropWhile p = lead ++ s := by
  cases lead with
  | nil => exact absurd rfl hne
  | cons c lead =>
      refine List.dropWhile_cons_of_neg ?_
      rw [h c List.mem_cons_self]
      exact Bool.false_ne_true

/-- What stands in front without blanks and controls is left in front. -/
theorem tidy_append {lead : List Char} (hne : lead ≠ []) (h : ∀ c ∈ lead, 0x20 < c.toNat)
    (s : List Char) : ∃ rest, tidy (lead ++ s) = lead ++ rest := by
  have hmargin : ∀ c ∈ lead, decide (c.toNat ≤ 0x20) = false := by
    intro c hc
    exact decide_eq_false (Nat.not_le.mpr (h c hc))
  have hbreaks : lead.filter (fun c => c != '\t' && c != '\n' && c != '\r') = lead := by
    rw [List.filter_eq_self]
    intro c hc
    have hblank := h c hc
    simp only [Bool.and_eq_true, bne_iff_ne, ne_eq]
    refine ⟨⟨?_, ?_⟩, ?_⟩ <;>
      · rintro rfl
        exact absurd hblank (by decide)
  have hend : ∃ rest, ((lead ++ s).reverse.dropWhile fun c => decide (c.toNat ≤ 0x20)).reverse =
      lead ++ rest := by
    rw [List.reverse_append, List.dropWhile_append]
    -- either all that follows the lead goes, or some of it stops what goes before the lead
    split
    · refine ⟨[], ?_⟩
      have hall := dropWhile_append_of_none (mt List.reverse_eq_nil_iff.mp hne)
        (fun c hc => hmargin c (List.mem_reverse.mp hc)) []
      rw [List.append_nil] at hall
      rw [hall, List.reverse_reverse, List.append_nil]
    · rw [List.reverse_append, List.reverse_reverse]
      exact ⟨_, rfl⟩
  obtain ⟨rest, hrest⟩ := hend
  simp only [tidy]
  rw [dropWhile_append_of_none hne hmargin, hrest, List.filter_append, hbreaks]
  exact ⟨_, rfl⟩

theorem cutScheme?_http (rest : List Char) :
    cutScheme? ("http".toList ++ ':' :: rest) = some ("http".toList, rest) := by
  unfold cutScheme?
  rw [Text.cut?_append (by decide)]
  rfl

/-! ## §4. Web addresses. -/

/-- A web address in its normal form. -/
structure IsWebAddress (u : Url) : Prop where
  web : u.isWeb = true
  authority : ∃ a, u.authority = some a ∧ a.host ≠ .name []
  path : ∃ below, u.path = '/' :: below
  query : ∀ q, u.query = some q → ∀ c ∈ q, stands inWebQuery c = true

/-- What a URL is read from: its scheme is what stands in front, and a web address has its
authority and its path from one place, and its query escaped. -/
theorem ofChars_eq_ok (h : ofChars s = .ok u) :
    ∃ rest, cutScheme? (tidy s) = some (u.scheme, rest) ∧
      (u.isWeb = true → ∃ followed text a query,
        readPlace u.scheme followed text = .ok (a, u.path) ∧ u.authority = some a ∧
          u.query = Option.map (escape inWebQuery) query) := by
  unfold ofChars at h
  split at h
  · next scheme rest hcut =>
      refine ⟨rest, ?_⟩
      rw [hcut]
      by_cases hweb : isWebScheme scheme = true
      · dsimp only at h
        rw [if_pos hweb, if_pos hweb] at h
        obtain ⟨⟨a, path⟩, hplace, h⟩ := (bind_eq_ok_iff _ _ _).mp h
        cases h
        exact ⟨rfl, fun _ => ⟨_, _, a, _, hplace, rfl, rfl⟩⟩
      · dsimp only at h
        rw [if_neg hweb] at h
        -- with or without an authority, the scheme is the one that was cut off
        have hscheme : scheme = u.scheme := by
          split at h
          · obtain ⟨_, _, h⟩ := (bind_eq_ok_iff _ _ _).mp h
            cases h
            rfl
          · cases h
            rfl
          · cases h
            rfl
        rw [hscheme] at hweb ⊢
        exact ⟨rfl, fun hisWeb => absurd hisWeb hweb⟩
  · cases h

end Url

/-- What is known of a reader of URLs. -/
structure ReadsUrls (parse : String → Except UrlError Url) : Prop where
  /-- The scheme of a URL stands in front of the first colon of the text, in small letters.  Blanks
  and controls around the text do not count, nor do tabs and line ends. -/
  scheme : ∀ {address u}, parse address = .ok u →
    ∃ rest, Url.cutScheme? (Url.tidy address.toList) = some (u.scheme, rest)
  /-- A URL with a web scheme has a host and a path that starts at the root, and its query is
  escaped. -/
  web : ∀ {address u}, parse address = .ok u → u.isWeb = true → u.IsWebAddress

/-- The reader of the client is one. -/
theorem readsUrls_parse : ReadsUrls Url.parse where
  scheme := by
    intro address u h
    obtain ⟨rest, hcut, _⟩ := Url.ofChars_eq_ok h
    exact ⟨rest, hcut⟩
  web := by
    intro address u h hweb
    obtain ⟨_, _, hparts⟩ := Url.ofChars_eq_ok h
    obtain ⟨_, _, a, query, hplace, ha, hquery⟩ := hparts hweb
    obtain ⟨hhost, hpath⟩ := Url.readPlace_of_web hweb hplace
    refine ⟨hweb, ⟨a, ha, hhost⟩, hpath, ?_⟩
    intro q hq
    rw [hquery] at hq
    obtain ⟨_, _, rfl⟩ := Option.map_eq_some_iff.mp hq
    exact Url.stands_of_mem_escape Url.stands_escapeSigns

/-- Behind `http://` a URL is a web address, whatever it is that follows. -/
theorem ReadsUrls.scheme_http {parse : String → Except UrlError Url} (h : ReadsUrls parse)
    {address : String} {u : Url} (hread : parse ("http://" ++ address) = .ok u) :
    u.scheme = "http".toList := by
  obtain ⟨rest, hcut⟩ := h.scheme hread
  have hlead : ∃ behind,
      Url.tidy ("http://".toList ++ address.toList) = "http://".toList ++ behind :=
    Url.tidy_append (by decide) (by simp) _
  obtain ⟨behind, htidy⟩ := hlead
  have htext : Url.tidy ("http://" ++ address).toList
      = "http".toList ++ ':' :: ('/' :: '/' :: behind) := by
    rw [String.toList_append, htidy]
    rfl
  rw [htext, Url.cutScheme?_http, Option.some.injEq, Prod.mk.injEq] at hcut
  exact hcut.1.symm

namespace Url

variable {u : Url}

/-- A path that is more than the root has more than one character, so without its last one it
still starts at the root. -/
theorem IsWebAddress.withoutLastSlash (h : u.IsWebAddress) : u.withoutLastSlash.IsWebAddress := by
  unfold Url.withoutLastSlash
  by_cases hroot : u.isWeb ∧ u.path = ['/']
  · rw [if_pos hroot]
    exact h
  · rw [if_neg hroot]
    by_cases hlast : u.path.getLast? = some '/'
    · rw [if_pos hlast]
      refine ⟨h.web, h.authority, ?_, h.query⟩
      obtain ⟨below, hbelow⟩ := h.path
      -- the last slash is not the first one
      cases below with
      | nil => exact absurd ⟨h.web, hbelow⟩ hroot
      | cons c below => exact ⟨(c :: below).dropLast, congrArg List.dropLast hbelow⟩
    · rw [if_neg hlast]
      exact h

theorem withoutLastSlash_scheme (u : Url) : u.withoutLastSlash.scheme = u.scheme := by
  unfold withoutLastSlash
  split
  · rfl
  · split
    · rfl
    · rfl

end Url

/-- An endpoint with a web scheme is a web address in its normal form. -/
theorem ReadsUrls.isWebAddress_of_endpointBy {parse : String → Except UrlError Url}
    (h : ReadsUrls parse) {address : String} {u : Url} (hread : endpointBy parse address = .ok u)
    (hweb : u.isWeb = true) : u.IsWebAddress := by
  obtain ⟨v, hv, rfl⟩ := (map_eq_ok_iff _ _ _).mp hread
  have hscheme : Url.isWebScheme v.withoutLastSlash.scheme = true := hweb
  rw [Url.withoutLastSlash_scheme] at hscheme
  exact (h.web hv hscheme).withoutLastSlash

end NodeClient
