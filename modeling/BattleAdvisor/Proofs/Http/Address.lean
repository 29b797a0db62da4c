import BattleAdvisor.Http.Message
import Mathlib.Data.List.TakeDrop
import Mathlib.Data.List.TakeWhile

/-!
# Addresses below an address

An address to which requests can be sent, with a slash at its end, may be followed by any path:
neither the scheme nor the host changes. It must not become too long, though.

* `Url.read_below`: what such an address is read as, with a path behind it.
* `Draft.build_eq_ok`: requests are built for addresses to which they can be sent.
-/

namespace BattleAdvisor.Http

/-! ## Characters in front of a mark -/

section

variable {α : Type} (p : α → Bool) (mark : α)

/-- What is dropped at the front does not depend on what follows a mark that stays. -/
theorem exists_dropWhile_append (stays : p mark = false) (front : List α) :
    ∃ rest, ∀ behind, (front ++ mark :: behind).dropWhile p = rest ++ mark :: behind := by
  induction front with
  | nil => exact ⟨[], fun behind => by simp [stays]⟩
  | cons a front ih =>
    by_cases dropped : p a = true
    · simpa [dropped] using ih
    · exact ⟨a :: front, fun behind => by simp [dropped]⟩

/-- What is dropped at the end leaves a mark that stays, and everything in front of it. -/
theorem exists_dropWhile_reverse (stays : p mark = false) (front behind : List α) :
    ∃ rest, ((front ++ mark :: behind).reverse.dropWhile p).reverse = front ++ mark :: rest := by
  obtain ⟨rest, h⟩ := exists_dropWhile_append p mark stays behind.reverse
  exact ⟨rest.reverse, by simp [h front.reverse]⟩

theorem takeWhile_append_mark (stops : p mark = false) (front behind behind' : List α) :
    (front ++ mark :: behind).takeWhile p = (front ++ mark :: behind').takeWhile p := by
  induction front with
  | nil => simp [stops]
  | cons a front ih =>
    by_cases taken : p a = true
    · simpa [taken] using ih
    · simp [taken]

end

/-! ## Reading -/

namespace Url

/-- A text that goes on behind a slash stays the same in front of it when it is cleaned. -/
theorem exists_clean (front : List Char) :
    ∃ kept, clean (front ++ ['/']) = kept ++ ['/'] ∧
      ∀ path, ∃ rest, clean (front ++ '/' :: path) = kept ++ '/' :: rest := by
  obtain ⟨kept, h⟩ := exists_dropWhile_append
    (fun c : Char => decide (c.toNat ≤ 0x20)) '/' (by decide) front
  refine ⟨kept.filter fun c => c ≠ '\t' ∧ c ≠ '\n' ∧ c ≠ '\r', ?_, fun path => ?_⟩
  · simp [clean, h]
  · obtain ⟨rest, h'⟩ := exists_dropWhile_reverse
      (fun c : Char => decide (c.toNat ≤ 0x20)) '/' (by decide) kept path
    exact ⟨rest.filter fun c => c ≠ '\t' ∧ c ≠ '\n' ∧ c ≠ '\r', by
      unfold clean
      simp only [h, h']
      simp⟩

/-- The scheme of a text stays the same when the text goes on behind a slash. -/
theorem exists_splitScheme? {done front scheme rest : List Char}
    (h : splitScheme? done (front ++ ['/']) = some (scheme, rest)) :
    ∃ kept, rest = kept ++ ['/'] ∧
      ∀ path, splitScheme? done (front ++ '/' :: path) = some (scheme, kept ++ '/' :: path) := by
  induction front generalizing done with
  | nil => simp [splitScheme?] at h
  | cons c front ih =>
    rw [List.cons_append, splitScheme?] at h
    split at h
    next colon =>
      simp only [Option.some.injEq, Prod.mk.injEq] at h
      obtain ⟨rfl, rfl⟩ := h
      exact ⟨front, rfl, fun path => by rw [List.cons_append, splitScheme?, if_pos colon]⟩
    next colon =>
      split at h
      next inside =>
        obtain ⟨kept, rfl, same⟩ := ih h
        exact ⟨kept, rfl, fun path => by
          rw [List.cons_append, splitScheme?, if_neg colon, if_pos inside, same]⟩
      next => cases h

/-- The part of an address that names the host. -/
def authorityOf (text : List Char) : List Char :=
  ((splitEnds text).1.span fun c => !isSeparator c).1

theorem splitEnds_fst (text : List Char) :
    (splitEnds text).1 = (text.takeWhile (· ≠ '#')).takeWhile (· ≠ '?') := by
  unfold splitEnds
  simp only [List.span_eq_takeWhile_dropWhile]
  generalize text.takeWhile (· ≠ '#') = front
  cases text.dropWhile (· ≠ '#') <;> simp only <;> cases front.dropWhile (· ≠ '?') <;> rfl

/-- The host of an address ends in front of its first slash. -/
theorem authorityOf_append (front path path' : List Char) :
    authorityOf (front ++ '/' :: path) = authorityOf (front ++ '/' :: path') := by
  simp only [authorityOf, splitEnds_fst, List.span_eq_takeWhile_dropWhile, List.takeWhile_takeWhile]
  exact takeWhile_append_mark _ _ (by decide) front path path'

/-- Whether an address of this scheme can be read depends on the part that names its host. -/
theorem readHosted_of_authorityOf [Hosts] {scheme text text' : List Char} {channel : Nat}
    {url : Url} (h : readHosted scheme channel text = .ok url)
    (same : authorityOf text' = authorityOf text) :
    ∃ url', readHosted scheme channel text' = .ok url' ∧ url'.scheme = url.scheme ∧
      url'.authority? = url.authority? := by
  unfold readHosted at h ⊢
  unfold authorityOf at same
  simp only [same] at h ⊢
  split at h
  next => cases h
  next given =>
    rw [if_neg given]
    split at h
    next => cases h
    next host =>
      split at h
      next => cases h
      next channel =>
        cases h
        exact ⟨_, rfl, rfl, rfl⟩

theorem readOther_scheme {scheme text : List Char} {url : Url}
    (h : readOther scheme text = .ok url) : url.scheme = scheme := by
  unfold readOther at h
  simp only at h
  split at h
  · split at h
    · cases h
    · split at h
      · cases h
      · cases h; rfl
  · cases h; rfl
  · cases h; rfl

/-- Whether requests can be sent to the place that an address names. -/
def IsUsable [Hosts] (url : Url) : Prop :=
  url.hasHost = true ∧ url.isServable = true ∧ url.isAdmitted = true

/-- Whether requests can be sent to an address depends on its scheme and its host. -/
theorem IsUsable.of_same [Hosts] {url url' : Url} (usable : url.IsUsable)
    (sameScheme : url'.scheme = url.scheme) (sameHost : url'.authority? = url.authority?) :
    url'.IsUsable := by
  unfold IsUsable hasHost isServable isAdmitted at usable ⊢
  rwa [sameScheme, sameHost]

theorem usualChannel?_of_isServable {url : Url} (h : url.isServable = true) :
    ∃ channel, usualChannel? url.scheme = some channel := by
  unfold isServable at h
  unfold usualChannel?
  split at h
  next same => exact ⟨80, by rw [same]; rfl⟩
  next same => exact ⟨443, by rw [same]; rfl⟩
  next => cases h

/-- Behind the separators in front of it, the text with a slash at its end is empty, or goes on. -/
theorem dropWhile_isSeparator (front : List Char) :
    (front ++ ['/']).dropWhile isSeparator = [] ∨
      ∃ rest, ∀ path, (front ++ '/' :: path).dropWhile isSeparator = rest ++ '/' :: path := by
  by_cases all : ∀ c ∈ front, isSeparator c = true
  · left
    rw [List.dropWhile_append_of_pos all]
    rfl
  · right
    push Not at all
    obtain ⟨c, h, stays⟩ := all
    obtain ⟨before, after, rfl⟩ := List.append_of_mem h
    obtain ⟨rest, h⟩ := exists_dropWhile_append isSeparator c (by simpa using stays) before
    exact ⟨rest ++ c :: after, fun path => by simpa using h (after ++ '/' :: path)⟩

/-- An address to which requests can be sent may be followed by any path. -/
theorem read_below [Hosts] {base : String} {url : Url} (h : read (base ++ "/") = .ok url)
    (usable : url.IsUsable) (path : String) :
    ∃ url', read (base ++ "/" ++ path) = .ok url' ∧ url'.IsUsable := by
  obtain ⟨cleaned, short, long⟩ := exists_clean base.toList
  obtain ⟨behind, long⟩ := long path.toList
  unfold read at h ⊢
  have slash : "/".toList = ['/'] := rfl
  simp only [String.toList_append, slash, List.append_assoc, List.singleton_append] at h ⊢
  rw [short] at h
  rw [long]
  split at h
  next => cases h
  next scheme rest split =>
    obtain ⟨kept, rfl, split'⟩ := exists_splitScheme? split
    rw [split']
    simp only
    split at h
    next channel usual =>
      obtain empty | ⟨text, dropped⟩ := dropWhile_isSeparator kept
      · rw [empty] at h
        cases h
      · rw [dropped] at h ⊢
        obtain ⟨url', read, sameScheme, sameHost⟩ :=
          readHosted_of_authorityOf h (authorityOf_append text behind [])
        exact ⟨url', read, usable.of_same sameScheme sameHost⟩
    next unusual =>
      obtain ⟨channel, usual⟩ := usualChannel?_of_isServable usable.2.1
      rw [readOther_scheme h, unusual] at usual
      cases usual

end Url

/-! ## Requests -/

/-- What is added to the query leaves the scheme and the host as they are. -/
theorem Draft.target_scheme (draft : Draft) (url : Url) :
    (draft.target url).scheme = url.scheme := by
  unfold target
  split <;> rfl

theorem Draft.target_authority? (draft : Draft) (url : Url) :
    (draft.target url).authority? = url.authority? := by
  unfold target
  split <;> rfl

variable [Hosts]

/-- The address of a request is not too long. -/
def Draft.IsShort (draft : Draft) : Prop :=
  ∀ url, Url.read draft.address = .ok url → (draft.target url).isShort = true

theorem Draft.IsShort.of_read {draft : Draft} {url : Url} (read : Url.read draft.address = .ok url)
    (short : (draft.target url).isShort = true) : draft.IsShort := by
  intro url' read'
  rwa [← Except.ok.inj (read.symm.trans read')]

instance (draft : Draft) : Decidable draft.IsShort :=
  match read : Url.read draft.address with
  | .ok url =>
    decidable_of_iff ((draft.target url).isShort = true)
      ⟨.of_read read, fun short => short url read⟩
  | .error _ => isTrue fun _ read' => nomatch read.symm.trans read'

/-- A request is built if and only if requests can be sent to its address, and it is not too long,
provided that its headers are in order. -/
theorem Draft.build_eq_ok {draft : Draft} {request : Request}
    (headers : ∀ header ∈ draft.headers, header.2.toList.all isHeaderChar = true) :
    draft.build = .ok request ↔ ∃ url, Url.read draft.address = .ok url ∧ url.IsUsable ∧
      (draft.target url).isShort = true ∧
      request = ⟨draft.method, draft.target url, draft.headers, draft.body⟩ := by
  have inOrder : (draft.headers.all fun header => header.2.toList.all isHeaderChar) = true :=
    List.all_eq_true.mpr headers
  unfold build
  cases Url.read draft.address with
  | error fault => exact ⟨nofun, fun ⟨_, read, _⟩ => nomatch read⟩
  | ok url =>
    have served : (draft.target url).isServable = url.isServable := by
      unfold Url.isServable
      rw [draft.target_scheme]
    have admitted : (draft.target url).isAdmitted = url.isAdmitted := by
      unfold Url.isAdmitted
      rw [draft.target_authority?]
    simp only [Except.ok.injEq, exists_eq_left', inOrder, Bool.not_true, Bool.false_eq_true,
      if_false, Url.IsUsable, served, admitted]
    cases url.hasHost with
    | false => simp
    | true =>
      cases url.isServable with
      | false => simp
      | true =>
        cases url.isAdmitted with
        | false => simp
        | true =>
          cases (draft.target url).isShort with
          | false => simp
          | true => simpa using eq_comm

/-- A request whose address becomes too long is not built. -/
theorem Draft.build_of_not_isShort (draft : Draft) {url : Url}
    (read : Url.read draft.address = .ok url) (usable : url.IsUsable)
    (headers : ∀ header ∈ draft.headers, header.2.toList.all isHeaderChar = true)
    (long : (draft.target url).isShort = false) :
    draft.build = .error (.inadmissible (draft.target url).text) := by
  obtain ⟨hosted, servable, -⟩ := usable
  have inOrder : (draft.headers.all fun header => header.2.toList.all isHeaderChar) = true :=
    List.all_eq_true.mpr headers
  have served : (draft.target url).isServable = true := by
    unfold Url.isServable at servable ⊢
    rwa [draft.target_scheme]
  unfold build
  rw [read]
  simp only [hosted, inOrder, served, long, Bool.not_true, Bool.false_eq_true, if_false,
    Bool.false_and]

end BattleAdvisor.Http
