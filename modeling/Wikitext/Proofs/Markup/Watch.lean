/-!
A watcher reads what tokens play in a word. It knows for each scope that it is in whether a start
was read there, and it gives up at a stop that follows one. A word that it reads to the end has no
start and stop in one scope, in that order.
-/
namespace Wikitext.Markup

inductive Role where
  | starts
  | stops
  | enters
  | leaves
  | plain
deriving DecidableEq

/-- For each scope, innermost first, whether a start has been read in it. No stop may follow. -/
def watch : List Bool → Role → Option (List Bool)
  | scopes, .plain => some scopes
  | scopes, .enters => some (false :: scopes)
  | [], _ => none
  | _ :: outer, .leaves => some outer
  | _ :: outer, .starts => some (true :: outer)
  | true :: _, .stops => none
  | false :: outer, .stops => some (false :: outer)

def watchAll (scopes : List Bool) (roles : List Role) : Option (List Bool) :=
  roles.foldlM watch scopes

def deepen : Nat → Role → Option Nat
  | depth, .enters => some (depth + 1)
  | 0, .leaves => none
  | depth + 1, .leaves => some depth
  | depth, _ => some depth

def Whole (roles : List Role) : Prop := roles.foldlM deepen 0 = some 0

instance (roles : List Role) : Decidable (Whole roles) :=
  inferInstanceAs (Decidable (roles.foldlM deepen 0 = some 0))

theorem watchAll_append (scopes : List Bool) (first second : List Role) :
    watchAll scopes (first ++ second) =
      (watchAll scopes first).bind fun next => watchAll next second :=
  List.foldlM_append

theorem watchAll_cons (scopes : List Bool) (role : Role) (rest : List Role) :
    watchAll scopes (role :: rest) = (watch scopes role).bind fun next => watchAll next rest := rfl

theorem watch_started {inner outer next : List Bool} {role : Role} {depth : Nat}
    (step : watch (inner ++ true :: outer) role = some next)
    (level : deepen inner.length role = some depth) :
    ∃ left, left.length = depth ∧ next = left ++ true :: outer := by
  cases role with
  | plain =>
    cases step
    cases level
    exact ⟨inner, rfl, rfl⟩
  | enters =>
    cases step
    cases level
    exact ⟨false :: inner, rfl, rfl⟩
  | leaves =>
    cases inner with
    | nil => contradiction
    | cons seen inner =>
      cases step
      cases level
      exact ⟨inner, rfl, rfl⟩
  | starts =>
    cases level
    cases inner with
    | nil =>
      cases step
      exact ⟨[], rfl, rfl⟩
    | cons seen inner =>
      cases step
      exact ⟨true :: inner, rfl, rfl⟩
  | stops =>
    cases level
    cases inner with
    | nil => contradiction
    | cons seen inner =>
      cases seen with
      | true => contradiction
      | false =>
        cases step
        exact ⟨false :: inner, rfl, rfl⟩

theorem watchAll_started {inner outer final : List Bool} {roles : List Role} {depth : Nat}
    (read : watchAll (inner ++ true :: outer) roles = some final)
    (level : roles.foldlM deepen inner.length = some depth) :
    ∃ left, left.length = depth ∧ final = left ++ true :: outer := by
  induction roles generalizing inner with
  | nil =>
    cases read
    cases level
    exact ⟨inner, rfl, rfl⟩
  | cons role rest ih =>
    obtain ⟨next, step, later⟩ := Option.bind_eq_some_iff.mp read
    obtain ⟨deeper, down, below⟩ := Option.bind_eq_some_iff.mp level
    obtain ⟨left, size, rfl⟩ := watch_started step down
    rw [← size] at below
    exact ih later below

theorem not_whole_between {scopes final : List Bool} {before between after : List Role}
    (read : watchAll scopes (before ++ .starts :: (between ++ .stops :: after)) = some final) :
    ¬Whole between := by
  intro whole
  rw [watchAll_append] at read
  obtain ⟨reached, _, read⟩ := Option.bind_eq_some_iff.mp read
  cases reached with
  | nil => contradiction
  | cons seen outer =>
    rw [watchAll_cons, watch, Option.bind_some, watchAll_append] at read
    obtain ⟨next, inside, read⟩ := Option.bind_eq_some_iff.mp read
    have inside : watchAll ([] ++ true :: outer) between = some next := inside
    obtain ⟨left, size, rfl⟩ := watchAll_started inside whole
    rw [List.eq_nil_of_length_eq_zero size] at read
    contradiction

def Quiet (roles : List Role) : Prop :=
  ∀ seen outer, watchAll (seen :: outer) roles = some (seen :: outer)

def Startless (roles : List Role) : Prop :=
  ∀ outer, watchAll (false :: outer) roles = some (false :: outer)

def Stopless (roles : List Role) : Prop :=
  ∀ seen outer, ∃ after, watchAll (seen :: outer) roles = some (after :: outer)

def Settled (roles : List Role) : Prop :=
  ∀ outer, ∃ after, watchAll (false :: outer) roles = some (after :: outer)

section
variable {first second roles : List Role}

theorem quiet_nil : Quiet [] := fun _ _ => rfl

theorem quiet_plain : Quiet [.plain] := fun _ _ => rfl

theorem Quiet.append (quiet : Quiet first) (other : Quiet second) : Quiet (first ++ second) := by
  intro seen outer
  rw [watchAll_append, quiet seen outer]
  exact other seen outer

theorem Quiet.startless (quiet : Quiet roles) : Startless roles := quiet false

theorem Quiet.stopless (quiet : Quiet roles) : Stopless roles :=
  fun seen outer => ⟨seen, quiet seen outer⟩

theorem Startless.append (startless : Startless first) (other : Startless second) :
    Startless (first ++ second) := by
  intro outer
  rw [watchAll_append, startless outer]
  exact other outer

theorem startless_stops : Startless [.stops] := fun _ => rfl

theorem Startless.settled (startless : Startless roles) : Settled roles :=
  fun outer => ⟨false, startless outer⟩

theorem Settled.scope (settled : Settled roles) : Quiet (.enters :: (roles ++ [.leaves])) := by
  intro seen outer
  obtain ⟨after, read⟩ := settled (seen :: outer)
  rw [watchAll_cons, watch, Option.bind_some, watchAll_append, read]
  rfl

theorem Startless.start (startless : Startless first) (stopless : Stopless second) :
    Settled (first ++ .starts :: second) := by
  intro outer
  obtain ⟨after, read⟩ := stopless true outer
  refine ⟨after, ?_⟩
  rw [watchAll_append, startless outer]
  exact read

theorem Quiet.start (quiet : Quiet first) (stopless : Stopless second) :
    Stopless (first ++ .starts :: second) := by
  intro seen outer
  obtain ⟨after, read⟩ := stopless true outer
  refine ⟨after, ?_⟩
  rw [watchAll_append, quiet seen outer]
  exact read

end

/-- What has been read while some starts wait: behind a start that waits nothing starts or stops,
and in front of all of them nothing starts. -/
def Waits : List (List Role) → List Role → Prop
  | [], inner => Startless inner
  | before :: outer, inner => Quiet inner ∧ Waits outer before

theorem Waits.append {outer : List (List Role)} {inner more : List Role} (waits : Waits outer inner)
    (quiet : Quiet more) : Waits outer (inner ++ more) := by
  cases outer with
  | nil => exact Startless.append waits quiet.startless
  | cons before outer => exact ⟨waits.1.append quiet, waits.2⟩

theorem Waits.settled {outer : List (List Role)} {inner : List Role} (waits : Waits outer inner) :
    Settled (outer.foldl (fun behind before => before ++ .starts :: behind) inner) := by
  have run : ∀ (outer : List (List Role)) (before behind : List Role), Waits outer before →
      Stopless behind →
      Settled (outer.foldl (fun behind before => before ++ .starts :: behind)
        (before ++ .starts :: behind)) := by
    intro outer
    induction outer with
    | nil =>
      intro before behind waits stopless
      exact Startless.start waits stopless
    | cons next outer ih =>
      intro before behind waits stopless
      exact ih next _ waits.2 (waits.1.start stopless)
  cases outer with
  | nil => exact Startless.settled waits
  | cons before outer => exact run outer before inner waits.2 waits.1.stopless

end Wikitext.Markup
