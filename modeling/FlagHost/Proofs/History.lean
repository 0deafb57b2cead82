import FlagHost.Proofs.Fetching
import Mathlib.Data.List.Induction

/-!
# What exchanges tell

From the exchanges that a connector has had with the service it can be told which session is held:
`Held` is the session of the latest token that was granted, as long as no request with it was
answered with 403. `Lawful` says what may be sent after what: nothing after a denial, requests for a
token while no session is held, and requests with the token of the session while one is. `Kept` ties
both to the state of a connector, and its lemmas say what one more exchange makes of them.
-/

namespace FlagHost

namespace Exchange

/-- A request for a token was granted. -/
def Grants (x : Exchange) (session : Session) : Prop :=
  x.request.method = "POST" ∧ x.reply.Grants session

/-- A request for a token was answered with 401 or 403. -/
def Denies (x : Exchange) : Prop := x.request.method = "POST" ∧ x.reply.Denies

/-- A request with a token was answered with 403. -/
def Expires (x : Exchange) : Prop := x.request.method = "GET" ∧ x.reply.Forbids

/-- A request that carries the token of the session. -/
def Bears (x : Exchange) (session : Session) : Prop :=
  x.request.method = "GET" ∧ ("authorization", "Bearer " ++ session.token) ∈ x.request.headers

theorem Expires.not_grants {x : Exchange} (h : x.Expires) (session : Session) :
    ¬ x.Grants session := by
  rintro ⟨post, -⟩
  exact Request.not_post_of_get h.1 post

theorem Bears.not_grants {x : Exchange} {session : Session} (h : x.Bears session) (s : Session) :
    ¬ x.Grants s := by
  rintro ⟨post, -⟩
  exact Request.not_post_of_get h.1 post

theorem Bears.not_denies {x : Exchange} {session : Session} (h : x.Bears session) :
    ¬ x.Denies := by
  rintro ⟨post, -⟩
  exact Request.not_post_of_get h.1 post

end Exchange

/-- The session of the latest token that was granted, if no token expired since. -/
def Held (history : List Exchange) (session : Session) : Prop :=
  ∃ before x after, history = before ++ x :: after ∧ x.Grants session ∧
    ∀ y ∈ after, ¬ y.Expires ∧ ∀ s, ¬ y.Grants s

theorem not_held_nil (session : Session) : ¬ Held [] session := by
  rintro ⟨before, x, after, empty, -⟩
  exact absurd empty (nil_ne_split before x after)

/-- What one more exchange makes of the session. -/
theorem held_snoc_iff (history : List Exchange) (x : Exchange) (session : Session) :
    Held (history ++ [x]) session ↔
      x.Grants session ∨ ¬ x.Expires ∧ (∀ s, ¬ x.Grants s) ∧ Held history session := by
  constructor
  · rintro ⟨before, y, after, split, grants, quiet⟩
    rcases (snoc_eq_split_iff history x before y after).1 split with
      ⟨rfl, rfl, rfl⟩ | ⟨rest, rfl, rfl⟩
    · exact .inl grants
    · obtain ⟨unexpired, ungranted⟩ :=
        quiet x (List.mem_append_right rest (List.mem_singleton_self x))
      exact .inr ⟨unexpired, ungranted, before, y, rest, rfl, grants,
        fun z member => quiet z (List.mem_append_left _ member)⟩
  · rintro (grants | ⟨unexpired, ungranted, before, y, after, rfl, grants, quiet⟩)
    · exact ⟨history, x, [], rfl, grants, fun y member => (nomatch member)⟩
    · refine ⟨before, y, after ++ [x], ?_, grants, ?_⟩
      · rw [List.append_assoc, List.cons_append]
      · intro z member
        rcases List.mem_append.1 member with member | member
        · exact quiet z member
        · rw [List.mem_singleton.1 member]
          exact ⟨unexpired, ungranted⟩

theorem Held.unique {history : List Exchange} {s s' : Session} (h : Held history s)
    (h' : Held history s') : s = s' := by
  induction history using List.reverseRecOn with
  | nil => exact absurd h (not_held_nil s)
  | append_singleton history x ih =>
    rcases (held_snoc_iff history x s).1 h with grants | ⟨-, ungranted, held⟩ <;>
      rcases (held_snoc_iff history x s').1 h' with grants' | ⟨-, ungranted', held'⟩
    · exact grants.2.unique grants'.2
    · exact absurd grants (ungranted' s)
    · exact absurd grants' (ungranted s')
    · exact ih held held'

theorem Held.claims {history : List Exchange} {session : Session} (h : Held history session) :
    Claims.ofToken (Utf8.ofText session.token) = .ok session.claims := by
  obtain ⟨-, x, -, -, grants, -⟩ := h
  exact grants.2.2

/-- After a token expired, a session is held only if a token was granted since. -/
theorem Held.exists_grants {before middle : List Exchange} {x : Exchange} {session : Session}
    (h : Held (before ++ x :: middle) session) (expires : x.Expires) :
    ∃ y ∈ middle, y.Grants session := by
  induction middle using List.reverseRecOn with
  | nil =>
    rcases (held_snoc_iff before x session).1 h with grants | ⟨unexpired, -⟩
    · exact absurd grants (expires.not_grants session)
    · exact absurd expires unexpired
  | append_singleton middle z ih =>
    rw [← List.cons_append, ← List.append_assoc, held_snoc_iff] at h
    rcases h with grants | ⟨-, -, earlier⟩
    · exact ⟨z, List.mem_append_right middle (List.mem_singleton_self z), grants⟩
    · obtain ⟨y, member, grants⟩ := ih earlier
      exact ⟨y, List.mem_append_left _ member, grants⟩

/-- The exchange may follow on the others: the key was not denied, and the request either asks for a
token while there is none, or carries the token of the session. -/
def Allowed (history : List Exchange) (x : Exchange) : Prop :=
  (∀ y ∈ history, ¬ y.Denies) ∧
    (x.request.method = "POST" ∧ (∀ session, ¬ Held history session) ∨
      ∃ session, Held history session ∧ x.Bears session)

/-- Every exchange may follow on those before it. -/
inductive Lawful : List Exchange → Prop where
  | nil : Lawful []
  | snoc {history : List Exchange} {x : Exchange} (lawful : Lawful history)
      (allowed : Allowed history x) : Lawful (history ++ [x])

theorem Lawful.allowed {before after : List Exchange} {x : Exchange}
    (h : Lawful (before ++ x :: after)) : Allowed before x := by
  generalize total : before ++ x :: after = history at h
  induction h generalizing after with
  | nil => exact absurd total.symm (nil_ne_split before x after)
  | snoc lawful allowed ih =>
    rcases (snoc_eq_split_iff _ _ before x after).1 total.symm with
      ⟨rfl, rfl, rfl⟩ | ⟨rest, rfl, rfl⟩
    · exact allowed
    · exact ih rfl

namespace Lawful

variable {before after : List Exchange} {x : Exchange}

/-- Requests that are no requests for a token carry the token of the session. -/
theorem exists_bears (h : Lawful (before ++ x :: after)) (get : x.request.method = "GET") :
    ∃ session, Held before session ∧ x.Bears session := by
  rcases h.allowed.2 with ⟨post, -⟩ | bears
  · exact absurd post (Request.not_post_of_get get)
  · exact bears

/-- A session that is held is lost by an answer with 403, and by nothing else. -/
theorem held_snoc_iff_not_expires (h : Lawful (before ++ x :: after)) {session : Session}
    (held : Held before session) : Held (before ++ [x]) session ↔ ¬ x.Expires := by
  rw [held_snoc_iff]
  constructor
  · rintro (grants | ⟨unexpired, -⟩)
    · exact fun expires => expires.not_grants session grants
    · exact unexpired
  · intro unexpired
    rcases h.allowed.2 with ⟨-, free⟩ | ⟨_, -, bears⟩
    · exact absurd held (free session)
    · exact .inr ⟨unexpired, bears.not_grants, held⟩

/-- After a token expired, no token is carried before one was granted again. -/
theorem exists_grants {middle : List Exchange} {y : Exchange}
    (h : Lawful (before ++ x :: middle ++ y :: after)) (expires : x.Expires)
    (get : y.request.method = "GET") : ∃ z ∈ middle, ∃ session, z.Grants session := by
  obtain ⟨session, held, -⟩ := h.exists_bears get
  obtain ⟨z, member, grants⟩ := held.exists_grants expires
  exact ⟨z, member, session, grants⟩

/-- Nothing comes after the key was denied. -/
theorem eq_nil_of_denies (h : Lawful (before ++ x :: after)) (denies : x.Denies) : after = [] := by
  cases after with
  | nil => rfl
  | cons y rest =>
    rw [← List.singleton_append, ← List.append_assoc] at h
    exact absurd denies (h.allowed.1 x (List.mem_append_right before (List.mem_singleton_self x)))

end Lawful

/-- What the exchanges tell about the state of the connector that had them. -/
structure Kept (history : List Exchange) (session : Option Session) (rejected : Bool) : Prop where
  lawful : Lawful history
  held_iff : ∀ s, session = some s ↔ Held history s
  rejected_iff : rejected = true ↔ ∃ x ∈ history, x.Denies

namespace Kept

variable {history : List Exchange} {x : Exchange} {session : Session}

theorem nil : Kept [] none false where
  lawful := .nil
  held_iff s := ⟨fun h => (nomatch h), fun held => absurd held (not_held_nil s)⟩
  rejected_iff := ⟨fun h => (nomatch h), fun ⟨_, member, _⟩ => (nomatch member)⟩

theorem not_held (h : Kept history none false) (s : Session) : ¬ Held history s :=
  fun held => nomatch (h.held_iff s).2 held

theorem not_denied {held : Option Session} (h : Kept history held false) :
    ∀ y ∈ history, ¬ y.Denies :=
  fun y member denies => nomatch h.rejected_iff.2 ⟨y, member, denies⟩

theorem rejected_snoc_iff {held : Option Session} (h : Kept history held false) (x : Exchange) :
    (∃ y ∈ history ++ [x], y.Denies) ↔ x.Denies := by
  constructor
  · rintro ⟨y, member, denies⟩
    rcases List.mem_append.1 member with member | member
    · exact absurd denies (h.not_denied y member)
    · rwa [← List.mem_singleton.1 member]
  · intro denies
    exact ⟨x, List.mem_append_right history (List.mem_singleton_self x), denies⟩

/-- A request for a token may be sent when there is neither a session nor a denial. -/
theorem allowed_of_post (h : Kept history none false) (post : x.request.method = "POST") :
    Allowed history x :=
  ⟨h.not_denied, .inl ⟨post, h.not_held⟩⟩

theorem granted (h : Kept history none false) (grants : x.Grants session) :
    Kept (history ++ [x]) (some session) false where
  lawful := h.lawful.snoc (h.allowed_of_post grants.1)
  held_iff s := by
    rw [held_snoc_iff]
    constructor
    · intro same
      cases same
      exact .inl grants
    · rintro (grants' | ⟨-, ungranted, -⟩)
      · exact congrArg some (grants.2.unique grants'.2)
      · exact absurd grants (ungranted session)
  rejected_iff := by
    rw [h.rejected_snoc_iff]
    exact ⟨fun h => (nomatch h), fun denies => absurd denies.2 grants.2.1.not_denies⟩

theorem ungranted (h : Kept history none false) (post : x.request.method = "POST")
    (ungranted : ∀ s, ¬ x.Grants s) {rejected : Bool} (denied : rejected = true ↔ x.Denies) :
    Kept (history ++ [x]) none rejected where
  lawful := h.lawful.snoc (h.allowed_of_post post)
  held_iff s := by
    rw [held_snoc_iff]
    refine ⟨fun h => (nomatch h), ?_⟩
    rintro (grants | ⟨-, -, held⟩)
    · exact absurd grants (ungranted s)
    · exact absurd held (h.not_held s)
  rejected_iff := denied.trans (h.rejected_snoc_iff x).symm

theorem bore (h : Kept history (some session) false) (bears : x.Bears session) :
    Kept (history ++ [x]) (if x.reply.Forbids then none else some session) false where
  lawful := h.lawful.snoc ⟨h.not_denied, .inr ⟨session, (h.held_iff session).1 rfl, bears⟩⟩
  held_iff s := by
    rw [held_snoc_iff, ← h.held_iff]
    split
    · next forbids =>
      refine ⟨fun h => (nomatch h), ?_⟩
      rintro (grants | ⟨unexpired, -⟩)
      · exact absurd grants (bears.not_grants s)
      · exact absurd ⟨bears.1, forbids⟩ unexpired
    · next accepted =>
      constructor
      · intro same
        exact .inr ⟨fun expires => accepted expires.2, bears.not_grants, same⟩
      · rintro (grants | ⟨-, -, same⟩)
        · exact absurd grants (bears.not_grants s)
        · exact same
  rejected_iff := by
    rw [h.rejected_snoc_iff]
    exact ⟨fun h => (nomatch h), fun denies => absurd denies bears.not_denies⟩

end Kept

end FlagHost
