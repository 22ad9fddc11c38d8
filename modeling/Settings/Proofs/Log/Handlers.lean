import Settings.Log.Console

/-!
# Handlers over many set-ups

A set-up takes away the handlers of earlier set-ups one by one and puts its own behind the others.
Handlers from elsewhere come and go in between.  A set-up never touches them, and it either fails
before it has changed anything or leaves its own handler as the only managed one.
-/

namespace Settings.Log

namespace Console

@[simp] theorem managed_remove (c : Console) (h : Handler) :
    (c.remove h).managed = c.managed.erase h :=
  List.erase_filter.symm

@[simp] theorem foreign_remove (c : Console) (h : Handler) :
    (c.remove h).foreign = c.foreign.erase h :=
  List.erase_filter.symm

@[simp] theorem managed_push (c : Console) (h : Handler) :
    (c.push h).managed = c.managed ++ [h].filter Handler.isManaged :=
  List.filter_append _ _

@[simp] theorem foreign_push (c : Console) (h : Handler) :
    (c.push h).foreign = c.foreign ++ [h].filter (!·.isManaged) :=
  List.filter_append _ _

theorem handlers_eq_foreign {c : Console} (h : c.managed = []) : c.handlers = c.foreign := by
  symm
  apply List.filter_eq_self.2
  intro x hx
  have hmanaged := List.filter_eq_nil_iff.1 h x hx
  simpa using hmanaged

theorem not_mem_foreign {c : Console} {h : Handler} (hm : h.isManaged = true) : h ∉ c.foreign := by
  intro hmem
  have hforeign := (List.mem_filter.1 hmem).2
  rw [hm] at hforeign
  cases hforeign

/-- The console with one managed handler in place of all those there are. -/
def replaceManaged (c : Console) (level : Level) (h : Handler) : Console :=
  ⟨level, c.foreign ++ [h]⟩

theorem managed_replaceManaged (c : Console) (level : Level) {h : Handler}
    (hm : h.isManaged = true) : (c.replaceManaged level h).managed = [h] := by
  have hnone : c.foreign.filter Handler.isManaged = [] := by
    apply List.filter_eq_nil_iff.2
    intro x hx hmanaged
    exact not_mem_foreign hmanaged hx
  rw [managed, replaceManaged, List.filter_append, hnone, List.nil_append,
    List.filter_cons_of_pos hm, List.filter_nil]

theorem foreign_replaceManaged (c : Console) (level : Level) {h : Handler}
    (hm : h.isManaged = true) : (c.replaceManaged level h).foreign = c.foreign := by
  have hall : c.foreign.filter (!·.isManaged) = c.foreign := by
    apply List.filter_eq_self.2
    intro x hx
    exact (List.mem_filter.1 hx).2
  rw [foreign, replaceManaged, List.filter_append, hall, List.filter_cons_of_neg (by simp [hm]),
    List.filter_nil, List.append_nil]

end Console

/-! ## One set-up -/

namespace Work

open Console

theorem run_removeManaged (h : Handler) (c : Console) :
    (removeManaged h).run c = .ok () (if h.isManaged then c.remove h else c) := by
  unfold removeManaged
  split <;> rfl

/-- Going through a list of handlers leaves the foreign ones, if the managed ones that are there are
those of the list. -/
theorem run_forM_removeManaged {hs : List Handler} {c : Console}
    (h : c.managed = hs.filter Handler.isManaged) :
    (hs.forM removeManaged).run c = .ok () { c with handlers := c.foreign } := by
  -- each step takes the same handler off the list and off the console
  induction hs generalizing c with
  | nil =>
      rw [← handlers_eq_foreign h]
      rfl
  | cons x hs ih =>
      rw [List.forM, EStateM.run_bind, run_removeManaged]
      cases hx : x.isManaged with
      | true =>
          have hmanaged : c.managed = x :: hs.filter Handler.isManaged := by
            rw [h, List.filter_cons_of_pos hx]
          have hrest : (c.remove x).managed = hs.filter Handler.isManaged := by
            rw [managed_remove, hmanaged, List.erase_cons_head]
          have hforeign : (c.remove x).foreign = c.foreign := by
            rw [foreign_remove, List.erase_of_not_mem (not_mem_foreign hx)]
          have hloop := ih hrest
          rw [hforeign] at hloop
          exact hloop
      | false =>
          rw [if_neg Bool.false_ne_true]
          apply ih
          rw [h, List.filter_cons_of_neg (by simp [hx])]

/-- A set-up fails where the level fails, with nothing changed, or it sets the level and has its
handler follow the foreign ones. -/
theorem run_setup (levelText : String) (form : Form) (stream : Option Stream) (c : Console) :
    (setup levelText form stream).run c =
      match Level.ofText levelText with
      | .ok level =>
          .ok () (c.replaceManaged level (.managed form (stream.getD .standardError)))
      | .error e => .error e c := by
  have hlevel : (setLevel levelText).run c =
      match Level.ofText levelText with
      | .ok level => .ok () { c with level }
      | .error e => .error e c := by
    unfold setLevel
    cases Level.ofText levelText <;> rfl
  -- the level comes first: where it fails, no handler has been touched
  rw [setup, EStateM.run_bind, hlevel]
  cases Level.ofText levelText with
  | error e => rfl
  | ok level =>
      have hloop : (c.handlers.forM removeManaged).run { c with level } =
          .ok () ⟨level, c.foreign⟩ :=
        run_forM_removeManaged (c := { c with level }) rfl
      show (c.handlers.forM removeManaged >>= _).run { c with level } = _
      rw [EStateM.run_bind, hloop]
      rfl

end Work

/-! ## Runs -/

/-- What is done to the console. -/
inductive Event where
  | setup (levelText : String) (form : Form) (stream : Option Stream)
  | add (name : String)
  | remove (name : String)

/-- The console after an event, be it a set-up that fails. -/
def Console.next (c : Console) : Event → Console
  | .setup levelText form stream =>
      match (Work.setup levelText form stream).run c with
      | .ok _ c' => c'
      | .error _ c' => c'
  | .add name => c.addForeign name
  | .remove name => c.removeForeign name

def Console.after (c : Console) (events : List Event) : Console := events.foldl next c

/-- The foreign handlers after an event, in their order: set-ups leave them alone. -/
def Event.foreignAfter (hs : List Handler) : Event → List Handler
  | .setup .. => hs
  | .add name => if .foreign name ∈ hs then hs else hs ++ [.foreign name]
  | .remove name => hs.erase (.foreign name)

/-- The managed handlers after an event: a set-up that succeeds leaves its own. -/
def Event.managedAfter (hs : List Handler) : Event → List Handler
  | .setup levelText form stream =>
      if (Level.ofText levelText).isOk then [.managed form (stream.getD .standardError)] else hs
  | _ => hs

namespace Console

theorem foreign_next (c : Console) (e : Event) : (c.next e).foreign = e.foreignAfter c.foreign := by
  cases e with
  | setup levelText form stream =>
      rw [next, Work.run_setup]
      cases Level.ofText levelText with
      | ok level => exact foreign_replaceManaged c level rfl
      | error e => rfl
  | add name =>
      have hmem : .foreign name ∈ c.foreign ↔ .foreign name ∈ c.handlers := by
        simp [foreign, Handler.isManaged]
      by_cases h : .foreign name ∈ c.handlers
      · simp [next, addForeign, Event.foreignAfter, hmem, h]
      · simp [next, addForeign, Event.foreignAfter, hmem, h, Handler.isManaged]
  | remove name => exact foreign_remove c (.foreign name)

theorem managed_next (c : Console) (e : Event) : (c.next e).managed = e.managedAfter c.managed := by
  cases e with
  | setup levelText form stream =>
      rw [next, Work.run_setup, Event.managedAfter]
      cases Level.ofText levelText with
      | ok level => exact managed_replaceManaged c level rfl
      | error e => rfl
  | add name =>
      by_cases h : .foreign name ∈ c.handlers
      · simp [next, addForeign, Event.managedAfter, h]
      · simp [next, addForeign, Event.managedAfter, h, Handler.isManaged]
  | remove name =>
      have hmem : .foreign name ∉ c.managed := by simp [managed, Handler.isManaged]
      rw [next, removeForeign, managed_remove, List.erase_of_not_mem hmem]
      rfl

theorem foreign_after (c : Console) (events : List Event) :
    (c.after events).foreign = events.foldl Event.foreignAfter c.foreign := by
  induction events generalizing c with
  | nil => rfl
  | cons e events ih =>
      rw [List.foldl_cons, ← foreign_next]
      exact ih (c.next e)

theorem managed_after (c : Console) (events : List Event) :
    (c.after events).managed = events.foldl Event.managedAfter c.managed := by
  induction events generalizing c with
  | nil => rfl
  | cons e events ih =>
      rw [List.foldl_cons, ← managed_next]
      exact ih (c.next e)

/-- Over every run of set-ups and of handlers that come and go, the foreign handlers are those that
came and did not go, in their order, and the managed ones are those of the last set-up that
succeeded.  A set-up at its end either fails and changes nothing, or its handler, with the form and
the stream it asks for, is the only managed one and the last of all, and the foreign handlers
stay. -/
theorem handlers_over_run (c : Console) (events : List Event) (levelText : String) (form : Form)
    (stream : Option Stream) :
    (c.after events).foreign = events.foldl Event.foreignAfter c.foreign ∧
      (c.after events).managed = events.foldl Event.managedAfter c.managed ∧
      (∀ c', (Work.setup levelText form stream).run (c.after events) = .ok () c' →
        c'.managed = [.managed form (stream.getD .standardError)] ∧
        c'.handlers.getLast? = some (.managed form (stream.getD .standardError)) ∧
        c'.foreign = (c.after events).foreign) ∧
      ∀ e c', (Work.setup levelText form stream).run (c.after events) = .error e c' →
        c' = c.after events := by
  refine ⟨foreign_after c events, managed_after c events, ?_, ?_⟩
  · intro c' h
    rw [Work.run_setup] at h
    cases hlevel : Level.ofText levelText with
    | error e =>
        rw [hlevel] at h
        cases h
    | ok level =>
        rw [hlevel] at h
        cases h
        refine ⟨managed_replaceManaged _ level rfl, ?_, foreign_replaceManaged _ level rfl⟩
        exact List.getLast?_concat
  · intro e c' h
    rw [Work.run_setup] at h
    cases hlevel : Level.ofText levelText with
    | error e =>
        rw [hlevel] at h
        cases h
        rfl
    | ok level =>
        rw [hlevel] at h
        cases h

/-- Two handlers from elsewhere, of which one goes again, around a set-up that succeeds and one that
fails. -/
def auditEvents : List Event :=
  [.add "audit", .setup "info" .json none, .setup "basic_format" .plain none, .add "trace",
   .remove "audit"]

theorem handlers_over_run_auditEvents :
    initial.after auditEvents =
        ⟨.info, [.managed .json .standardError, .foreign "trace"]⟩ ∧
      (Work.setup "debug" .plain (some (.named "out"))).run (initial.after auditEvents) =
        .ok () ⟨.debug, [.foreign "trace", .managed .plain (.named "out")]⟩ ∧
      managed ⟨.debug, [.foreign "trace", .managed .plain (.named "out")]⟩ =
        [.managed .plain (.named "out")] ∧
      foreign ⟨.debug, [.foreign "trace", .managed .plain (.named "out")]⟩ =
        auditEvents.foldl Event.foreignAfter [] := by
  have hsetup : (Work.setup "debug" .plain (some (.named "out"))).run (initial.after auditEvents) =
      .ok () ⟨.debug, [.foreign "trace", .managed .plain (.named "out")]⟩ := rfl
  obtain ⟨hforeign, -, hok, -⟩ :=
    handlers_over_run initial auditEvents "debug" .plain (some (.named "out"))
  obtain ⟨hmanaged, -, hkept⟩ := hok _ hsetup
  exact ⟨rfl, hsetup, hmanaged, hkept.trans hforeign⟩

end Console

end Settings.Log
