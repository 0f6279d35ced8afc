import ClusterAccess.Proofs.ProviderOutput

namespace ClusterAccess

open Text (isBlankText trim)
open Time (parseTimestamp)

namespace Json

/-- In an object the member of that name, in an array the item of that index. -/
inductive Reaches : Json → List String → Json → Prop where
  | here (d : Json) : Reaches d [] d
  | member {members : List (String × Json)} {segment : String} {segments : List String} {d v : Json}
    (hd : members.lookup segment = some d) (hv : Reaches d segments v) :
    Reaches (.object members) (segment :: segments) v
  | item {items : List Json} {segment : String} {segments : List String} {i : Nat} {d v : Json}
    (hi : index? segment = some i) (hd : items[i]? = some d) (hv : Reaches d segments v) :
    Reaches (.array items) (segment :: segments) v

variable {d v : Json} {segments : List String}

theorem reaches_of_follow? (h : Selector.follow? d segments = some v) : d.Reaches segments v := by
  induction segments generalizing d with
  | nil =>
    cases h
    exact .here _
  | cons segment segments ih =>
    rw [Selector.follow?_cons, Option.bind_eq_some_iff] at h
    obtain ⟨d', hd, hv⟩ := h
    cases d with
    | object members => exact .member hd (ih hv)
    | array items =>
      obtain ⟨i, hi, hd⟩ := Option.bind_eq_some_iff.1 hd
      exact .item hi hd (ih hv)
    | _ => cases hd

theorem Reaches.follow?_eq (h : d.Reaches segments v) : Selector.follow? d segments = some v := by
  induction h with
  | here d => rfl
  | member hd _ ih =>
    rw [Selector.follow?_cons, child?, hd]
    exact ih
  | item hi hd _ ih =>
    rw [Selector.follow?_cons, child?, hi, Option.bind_some, hd]
    exact ih

theorem hasText_iff {selector text : String} :
    d.HasText selector text ↔ d.Reaches (Selector.segments selector) (.string text) :=
  ⟨reaches_of_follow?, fun h => h.follow?_eq⟩

end Json

namespace Provider

/-- What an output lacks, by the text that tells it. -/
inductive Lacks (p : Provider) (selector stdout : String) : String → Prop where
  | output (hb : isBlankText stdout = true) :
    Lacks p selector stdout ("'" ++ p.describe ++ "' produced no output")
  | document (hb : isBlankText stdout = false) (hd : Json.parse? (trim stdout) = none) :
    Lacks p selector stdout
      ("output of '" ++ p.describe ++ "' is not valid JSON: malformed JSON")
  | token {d : Json} (hd : Json.parse? (trim stdout) = some d)
    (ht : ∀ text, d.HasText selector text → isBlankText text = true) :
    Lacks p selector stdout ("no access token found at '" ++ selector ++ "'")
  | expiry {d : Json} {text place : String} (hd : Json.parse? (trim stdout) = some d)
    (ht : d.HasText selector text) (hb : isBlankText text = false)
    (he : p.expirySelector = some place) (hx : ∀ raw, ¬ d.HasText place raw) :
    Lacks p selector stdout ("no token expiry found at '" ++ place ++ "'")
  | timestamp {d : Json} {text place raw : String} (hd : Json.parse? (trim stdout) = some d)
    (ht : d.HasText selector text) (hb : isBlankText text = false)
    (he : p.expirySelector = some place) (hraw : d.HasText place raw)
    (hx : parseTimestamp raw = none) :
    Lacks p selector stdout ("token expiry '" ++ raw ++ "' is not an RFC3339 timestamp")

variable {p : Provider} {d : Json} {selector stdout detail place raw : String} {c : Credential}

theorem tokenAt_of_lacking (h : ∀ text, d.HasText selector text → isBlankText text = true) :
    tokenAt d selector =
      .error (.badCommandOutput ("no access token found at '" ++ selector ++ "'")) := by
  have hnone : ((Selector.select? d selector).bind Json.string?).filter (!isBlankText ·) = none := by
    rw [Option.filter_eq_none_iff]
    intro text ht
    rw [h text (bind_string?_eq_some_iff.1 ht)]
    exact Bool.false_ne_true
  rw [tokenAt, hnone]

theorem instantAt_of_lacking (h : ∀ raw, ¬ d.HasText place raw) :
    instantAt d place =
      .error (.badCommandOutput ("no token expiry found at '" ++ place ++ "'")) := by
  have hnone : (Selector.select? d place).bind Json.string? = none := by
    rw [Option.eq_none_iff_forall_ne_some]
    intro raw hraw
    exact h raw (bind_string?_eq_some_iff.1 hraw)
  rw [instantAt, hnone]

theorem instantAt_of_malformed (hraw : d.HasText place raw) (hx : parseTimestamp raw = none) :
    instantAt d place = .error (.badCommandOutput
      ("token expiry '" ++ raw ++ "' is not an RFC3339 timestamp")) := by
  rw [instantAt, bind_string?_eq_some_iff.2 hraw]
  simp only [hx]

theorem Lacks.parseOutput_eq (hs : p.tokenSelector = some selector)
    (h : p.Lacks selector stdout detail) :
    p.parseOutput stdout = .error (.badCommandOutput detail) := by
  -- a document has been read up to the token, and what is found for the expiry is the answer
  have hexpiry {d : Json} {text place : String} {e : Error}
      (hd : Json.parse? (trim stdout) = some d) (ht : d.HasText selector text)
      (hb : isBlankText text = false) (he : p.expirySelector = some place)
      (hi : instantAt d place = .error e) : p.parseOutput stdout = .error e := by
    have htoken := tokenAt_eq_ok_iff.2 ⟨_, ht, hb, rfl⟩
    simp only [parseOutput, isEmpty_of_parse hd, hs, document_eq_ok_iff.2 hd, htoken, he, hi,
      Bool.false_eq_true, if_false, bind, Except.bind]
  cases h with
  | output hb =>
    simp only [parseOutput, (Text.trim_eq_empty_iff stdout).2 hb]
    rfl
  | document hb hd =>
    have hdoc : p.document (trim stdout) = .error (.badCommandOutput
        ("output of '" ++ p.describe ++ "' is not valid JSON: malformed JSON")) := by
      simp only [Provider.document, hd]
    simp only [parseOutput, Text.isEmpty_trim hb, hs, hdoc, Bool.false_eq_true, if_false, bind,
      Except.bind]
  | token hd ht =>
    simp only [parseOutput, isEmpty_of_parse hd, hs, document_eq_ok_iff.2 hd,
      tokenAt_of_lacking ht, Bool.false_eq_true, if_false, bind, Except.bind]
  | expiry hd ht hb he hx => exact hexpiry hd ht hb he (instantAt_of_lacking hx)
  | timestamp hd ht hb he hraw hx => exact hexpiry hd ht hb he (instantAt_of_malformed hraw hx)

theorem expires_or_lacks {text : String} (hd : Json.parse? (trim stdout) = some d)
    (ht : d.HasText selector text) (hb : isBlankText text = false) :
    (∃ expiresAt, p.Expires d expiresAt) ∨ ∃ detail, p.Lacks selector stdout detail := by
  cases he : p.expirySelector with
  | none => exact .inl ⟨none, .never he⟩
  | some place =>
    by_cases hx : ∃ raw, d.HasText place raw
    · obtain ⟨raw, hraw⟩ := hx
      cases hp : parseTimestamp raw with
      | some t => exact .inl ⟨some t, .at he hraw hp⟩
      | none => exact .inr ⟨_, .timestamp hd ht hb he hraw hp⟩
    · rw [not_exists] at hx
      exact .inr ⟨_, .expiry hd ht hb he hx⟩

/-- With a place for the token, an output that is not accepted lacks something. -/
theorem accepts_or_lacks (hs : p.tokenSelector = some selector) (stdout : String) :
    (∃ c, p.Accepts stdout c) ∨ ∃ detail, p.Lacks selector stdout detail := by
  cases hb : isBlankText stdout with
  | true => exact .inr ⟨_, .output hb⟩
  | false =>
    cases hd : Json.parse? (trim stdout) with
    | none => exact .inr ⟨_, .document hb hd⟩
    | some d =>
      by_cases ht : ∃ text, d.HasText selector text ∧ isBlankText text = false
      · obtain ⟨text, ht, hb⟩ := ht
        rcases expires_or_lacks (p := p) hd ht hb with ⟨expiresAt, he⟩ | hl
        · exact .inl ⟨_, .document hs hd ht hb he⟩
        · exact .inr hl
      · rw [not_exists] at ht
        have hblank : ∀ text, d.HasText selector text → isBlankText text = true := by
          intro text htext
          simpa [htext] using ht text
        exact .inr ⟨_, .token hd hblank⟩

/-- What comes of the outputs of a provider's command with a place for the token. -/
structure ReadsDocuments (p : Provider) (selector : String) : Prop where
  places : ∀ d place text, Json.HasText d place text ↔
    d.Reaches (Selector.segments place) (.string text)
  accepted : ∀ stdout c, p.parseOutput stdout = .ok c ↔ ∃ d token expiresAt,
    Json.parse? (trim stdout) = some d ∧ d.HasText selector token ∧ isBlankText token = false ∧
      p.Expires d expiresAt ∧ c = .bearer (trim token) expiresAt
  refused : ∀ stdout e, p.parseOutput stdout = .error e ↔
    ∃ detail, p.Lacks selector stdout detail ∧ e = .badCommandOutput detail

theorem documents_read (hs : p.tokenSelector = some selector) : p.ReadsDocuments selector where
  places d place text := Json.hasText_iff
  accepted stdout c := by
    rw [parseOutput_eq_ok_iff]
    constructor
    · intro h
      cases h with
      | raw hn _ => cases hs.symm.trans hn
      | document hs' hd ht hb he =>
        cases hs.symm.trans hs'
        exact ⟨_, _, _, hd, ht, hb, he, rfl⟩
    · rintro ⟨d, token, expiresAt, hd, ht, hb, he, rfl⟩
      exact .document hs hd ht hb he
  refused stdout e := by
    constructor
    · intro h
      rcases accepts_or_lacks hs stdout with ⟨c, hc⟩ | ⟨detail, hl⟩
      · cases h.symm.trans hc.parseOutput_eq
      · cases h.symm.trans (hl.parseOutput_eq hs)
        exact ⟨detail, hl, rfl⟩
    · rintro ⟨detail, hl, rfl⟩
      exact hl.parseOutput_eq hs

theorem documents_read_documented :
    documented.tokenSelector = some "credential/access_token" ∧
      documented.ReadsDocuments "credential/access_token" :=
  ⟨rfl, documents_read rfl⟩

end Provider

end ClusterAccess
