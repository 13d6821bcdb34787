import NamedCaches.Proofs.Cache.Exec
set_option autoImplicit false
/-!
# What operations keep

`Moves R x` says that every run of `x`, whether it succeeds or fails, ends in a cache and world
that `R` relates to those it started from. For a transitive `R` it is closed under the ways
operations are put together (`Moves.bind`, `Moves.tryCatch`, ...), once for every such relation:
the ones this module and later ones follow are instances.

`Fixes f x` says that running `x` leaves the view `f` of every cache as it was, in every world,
whether `x` succeeds or fails: it moves along equality of the view. Every data operation and
every registration changes only a cache's store, loader binding and listeners, so it fixes every
view that does not show these (`Blind`); initialising and disposing change the status too, and
fix every blind view that does not show the status. A cache's settings are such a view: they are
fixed when the cache is made (`fixesSettings_initialise`, `fixesSettings_attachDeclaredLoader`,
`fixesSettings_dispose`).

Disposal cannot fail: every failure inside it is caught and logged. `Succeeds x P` says that `x`
succeeds from every cache and world and leaves a cache with `P`; with it, disposing an operable
cache leaves it disposed, and disposing any other cache leaves it as it was (`dispose_status`).
-/

namespace NamedCaches.Cache

variable {L E H S W : Type} {α β γ : Type}

/-- Every run of the operation ends in a cache and world that `R` relates to those it started
from. -/
def Moves (R : Cache L E H S × W → Cache L E H S × W → Prop) (x : CacheM L E H S W α) : Prop :=
  ∀ c w, R (c, w) ((exec x c w).1.2, (exec x c w).2)

/-- Running the operation leaves the view `f` of the cache as it was. -/
def Fixes (f : Cache L E H S → γ) (x : CacheM L E H S W α) : Prop :=
  ∀ c w, f (exec x c w).1.2 = f c

/-- A view of a cache that does not show its store, its loader binding or its listeners. -/
structure Blind (f : Cache L E H S → γ) : Prop where
  store : ∀ c s, f { c with store := s } = f c
  binding : ∀ c b, f { c with binding := b } = f c
  listeners : ∀ c ls, f { c with listeners := ls } = f c

/-- Running the operation leaves the cache's settings as they were. -/
def FixesSettings (x : CacheM L E H S W α) : Prop :=
  ∀ c w, (exec x c w).1.2.settings = c.settings

/-! ## Putting operations together -/

section
variable {R : Cache L E H S × W → Cache L E H S × W → Prop}

-- a failed first step ends the run where it failed; a successful one is followed by the rest,
-- whose relation chains onto the first's
theorem Moves.bind (htrans : ∀ {p q s}, R p q → R q s → R p s) {x : CacheM L E H S W α}
    {g : α → CacheM L E H S W β} (hx : Moves R x) (hg : ∀ a, Moves R (g a)) :
    Moves R (x >>= g) := by
  intro c w
  have h1 := hx c w
  rw [exec_bind]
  rcases h : exec x c w with ⟨⟨r, c'⟩, w'⟩
  rw [h] at h1
  cases r with
  | ok a => exact htrans h1 (hg a c' w')
  | error e => exact h1

theorem Moves.discard {x : CacheM L E H S W α} (hx : Moves R x) : Moves R (discard x) := by
  intro c w
  have h1 := hx c w
  rw [exec_discard]
  rcases h : exec x c w with ⟨⟨r, c'⟩, w'⟩
  rw [h] at h1
  cases r <;> exact h1

theorem Moves.map {x : CacheM L E H S W α} (g : α → β) (hx : Moves R x) : Moves R (g <$> x) := by
  intro c w
  rw [exec_map]
  exact hx c w

theorem Moves.tryCatch (htrans : ∀ {p q s}, R p q → R q s → R p s) {x : CacheM L E H S W α}
    {g : Failure → CacheM L E H S W α} (hx : Moves R x) (hg : ∀ e, Moves R (g e)) :
    Moves R (MonadExcept.tryCatch x g) := by
  intro c w
  have h1 := hx c w
  rw [exec_tryCatch]
  rcases h : exec x c w with ⟨⟨r, c'⟩, w'⟩
  rw [h] at h1
  cases r with
  | ok a => exact h1
  | error e => exact htrans h1 (hg e c' w')

end

section
variable {f : Cache L E H S → γ}

theorem fixes_pure (a : α) : Fixes f (pure a : CacheM L E H S W α) :=
  fun _ _ => rfl

theorem fixes_current : Fixes f (current : CacheM L E H S W _) :=
  fun _ _ => rfl

theorem fixes_throw (e : Failure) : Fixes f (throw e : CacheM L E H S W α) :=
  fun _ _ => rfl

theorem fixes_lift (act : StateM W α) : Fixes f (monadLift act : CacheM L E H S W α) :=
  fun _ _ => rfl

theorem fixes_modify {g : Cache L E H S → Cache L E H S} (hg : ∀ c, f (g c) = f c) :
    Fixes f (modify g : CacheM L E H S W Unit) :=
  fun c _ => hg c

theorem fixes_orFail (r : Except Failure α) : Fixes f (orFail r : CacheM L E H S W α) := by
  cases r with
  | ok a => exact fixes_pure a
  | error e => exact fixes_throw e

theorem Fixes.bind {x : CacheM L E H S W α} {g : α → CacheM L E H S W β}
    (hx : Fixes f x) (hg : ∀ a, Fixes f (g a)) : Fixes f (x >>= g) :=
  -- `Fixes` moves along equality of the view
  Moves.bind (R := fun p q => f q.1 = f p.1) (fun h₁ h₂ => h₂.trans h₁) hx hg

theorem Fixes.discard {x : CacheM L E H S W α} (hx : Fixes f x) : Fixes f (discard x) :=
  Moves.discard (R := fun p q => f q.1 = f p.1) hx

theorem Fixes.map {x : CacheM L E H S W α} (g : α → β) (hx : Fixes f x) : Fixes f (g <$> x) :=
  Moves.map (R := fun p q => f q.1 = f p.1) g hx

theorem Fixes.tryCatch {x : CacheM L E H S W α} {g : Failure → CacheM L E H S W α}
    (hx : Fixes f x) (hg : ∀ e, Fixes f (g e)) : Fixes f (MonadExcept.tryCatch x g) :=
  Moves.tryCatch (R := fun p q => f q.1 = f p.1) (fun h₁ h₂ => h₂.trans h₁) hx hg

theorem fixes_forM {δ : Type} (g : δ → CacheM L E H S W PUnit) (hg : ∀ a, Fixes f (g a)) :
    ∀ l : List δ, Fixes f (l.forM g)
  | [] => fixes_pure _
  | a :: l => by
    rw [List.forM_eq_forM, List.forM_cons]
    exact (hg a).bind fun _ => fixes_forM g hg l

theorem fixes_mapM {δ ε : Type} (g : δ → CacheM L E H S W ε) (hg : ∀ a, Fixes f (g a)) :
    ∀ l : List δ, Fixes f (l.mapM g)
  | [] => fixes_pure _
  | a :: l => by
    rw [List.mapM_cons]
    exact (hg a).bind fun _ => (fixes_mapM g hg l).bind fun _ => fixes_pure _

theorem fixes_foldlM {δ ε : Type} (g : ε → δ → CacheM L E H S W ε) (hg : ∀ a b, Fixes f (g a b)) :
    ∀ (l : List δ) (init : ε), Fixes f (l.foldlM g init)
  | [], _ => fixes_pure _
  | b :: l, init => by
    rw [List.foldlM_cons]
    exact (hg init b).bind fun a => fixes_foldlM g hg l a

/-! ## The building blocks -/

theorem fixes_checkOperable (op : String) : Fixes f (checkOperable op : CacheM L E H S W Unit) :=
  fixes_current.bind fun _ => fixes_orFail _

theorem fixes_log [Journal W] (level : Level) (target message : String) :
    Fixes f (log level target message : CacheM L E H S W _) :=
  fixes_lift _

theorem fixes_onBinding [Named L] [KeyedLoader L W] [Journal W] (hb : ∀ c b, f { c with binding := b } = f c)
    (act : Binding.BindingM L W α) : Fixes f (onBinding act : CacheM L E H S W _) := by
  unfold onBinding
  refine fixes_current.bind fun c => ?_
  cases c.binding with
  | none => exact fixes_pure _
  | some b =>
    refine (fixes_lift _).bind fun p => ?_
    exact (fixes_modify fun c => hb c _).bind fun _ => fixes_pure _

theorem fixes_isolate [Handler H W] (key : Option String) (r : Except Failure α) :
    Fixes f (isolate key r : CacheM L E H S W _) := by
  unfold isolate
  cases r with
  | ok a => exact fixes_pure _
  | error e =>
    dsimp only
    split
    · exact (fixes_current.bind fun _ => fixes_lift _).bind fun _ => fixes_pure _
    · exact fixes_throw e

theorem fixes_notify [Listener E W] [Handler H W] (key : Option String) (ev : Event) :
    Fixes f (notify key ev : CacheM L E H S W _) := by
  unfold notify
  refine fixes_current.bind fun c => fixes_forM _ (fun l => ?_) _
  exact (fixes_lift _).bind fun r => (fixes_isolate key r).discard

section
variable [Listener E W] [Handler H W] [Storage S W] [Journal W]
  (hs : ∀ c s, f { c with store := s } = f c)
include hs

theorem fixes_relayRemovals : Fixes f (relayRemovals : CacheM L E H S W _) := by
  unfold relayRemovals
  refine fixes_current.bind fun c => (fixes_lift _).bind fun p => ?_
  refine (fixes_modify fun c => hs c _).bind fun _ => fixes_forM _ (fun r => ?_) _
  exact (fixes_notify _ _).tryCatch fun _ => fixes_current.bind fun _ => fixes_log _ _ _

theorem fixes_onStore (act : StoreM S W α) : Fixes f (onStore act : CacheM L E H S W _) := by
  unfold onStore
  refine fixes_current.bind fun c => (fixes_lift _).bind fun p => ?_
  exact (fixes_modify fun c => hs c _).bind fun _ => (fixes_relayRemovals hs).bind fun _ =>
    fixes_pure _

end

/-! ## Operations -/

section
variable (hf : Blind f)
include hf

section
variable [Listener E W] [Handler H W] [Storage S W] [Journal W]

theorem fixes_put (k v : String) : Fixes f (put k v : CacheM L E H S W _) := by
  unfold put
  refine (fixes_checkOperable _).bind fun _ => (fixes_onStore hf.store _).bind fun r => ?_
  refine (fixes_isolate _ r).bind fun o => ?_
  split
  · exact fixes_notify _ _
  · exact fixes_notify _ _
  · exact fixes_pure _

theorem fixes_putAll (es : List (String × String)) : Fixes f (putAll es : CacheM L E H S W _) :=
  fixes_forM _ (fun _ => fixes_put hf _ _) es

theorem fixes_remove (k : String) : Fixes f (remove k : CacheM L E H S W _) := by
  unfold remove
  refine (fixes_checkOperable _).bind fun _ => (fixes_onStore hf.store _).bind fun r => ?_
  refine (fixes_isolate _ r).bind fun o => ?_
  dsimp only
  split
  · exact (fixes_notify _ _).bind fun _ => fixes_pure _
  · exact fixes_pure _

theorem fixes_removeAll : Fixes f (removeAll : CacheM L E H S W _) := by
  unfold removeAll
  refine (fixes_checkOperable _).bind fun _ => (fixes_onStore hf.store _).bind fun r => ?_
  refine (fixes_isolate _ r).bind fun o => ?_
  split
  · exact fixes_notify _ _
  · exact fixes_pure _

omit hf [Listener E W] [Handler H W] [Journal W] in
theorem fixes_containsKey (k : String) : Fixes f (containsKey k : CacheM L E H S W _) :=
  (fixes_checkOperable _).bind fun _ => fixes_current.bind fun _ => fixes_pure _

variable [Named L] [KeyedLoader L W]

theorem fixes_get (k : String) (a : Option Argument) : Fixes f (get k a : CacheM L E H S W _) := by
  unfold get
  refine (fixes_checkOperable _).bind fun _ => (fixes_onStore hf.store _).bind fun r => ?_
  refine (fixes_isolate _ r).bind fun o => ?_
  split
  · exact fixes_pure _
  refine fixes_current.bind fun c => ?_
  split
  · exact fixes_pure _
  refine (fixes_onBinding hf.binding _).bind fun r => ?_
  split
  · refine (fixes_isolate _ _).bind fun o => ?_
    split
    · exact (fixes_put hf _ _).bind fun _ => fixes_pure _
    · exact fixes_pure _
  · exact fixes_pure _

theorem fixes_getAll (ks : List String) (a : Option Argument) :
    Fixes f (getAll ks a : CacheM L E H S W _) := by
  unfold getAll
  refine (fixes_checkOperable _).bind fun _ => ?_
  refine (fixes_foldlM _ (fun acc k => ?_) _ _).bind fun p => ?_
  · refine (fixes_onStore hf.store _).bind fun r => (fixes_isolate _ r).bind fun o => ?_
    split <;> exact fixes_pure _
  obtain ⟨found, missing⟩ := p
  refine fixes_current.bind fun c => ?_
  split
  · exact fixes_pure _
  refine (fixes_onBinding hf.binding _).bind fun r => ?_
  split
  · refine (fixes_isolate _ _).bind fun o => ?_
    split
    · -- the batch's failures are reported or thrown, then its values are put
      refine (fixes_forM _ (fun p => ?_) _).bind fun _ => ?_
      · obtain ⟨k, e⟩ := p
        dsimp only
        split
        · exact fixes_current.bind fun _ => fixes_lift _
        · exact fixes_throw _
      exact fixes_foldlM _ (fun acc p => (fixes_put hf _ _).bind fun _ => fixes_pure _) _ _
    · exact fixes_pure _
  · exact fixes_pure _

end

/-! ## Collaborators' calls on the cache -/

omit hf in
theorem fixes_noCalls (cb : Callback L E) : Fixes f (noCalls cb : CacheM L E H S W Unit) :=
  fixes_pure ()

section
variable {reenter : Callback L E → CacheM L E H S W Unit} (hr : ∀ cb, Fixes f (reenter cb))
include hr

omit hf in
theorem fixes_release [Named L] [KeyedLoader L W] [Journal W] (b : Binding L) :
    Fixes f (release reenter b) := by
  unfold release
  -- the loader's own disposal is the join point after its calls
  extract_lets finish
  have hfinish : ∀ u, Fixes f (finish u) := fun _ => (fixes_lift _).discard
  split
  · exact (hr _).bind hfinish
  · exact hfinish ()

omit hf in
theorem fixes_releaseListener [Listener E W] (l : E) : Fixes f (releaseListener reenter l) :=
  (hr _).bind fun _ => fixes_lift _

variable [Named L] [KeyedLoader L W] [Journal W]

theorem fixes_installWith (b : Binding L) : Fixes f (installWith reenter b) := by
  unfold installWith
  refine fixes_current.bind fun c => (fixes_modify fun c => hf.binding c _).bind fun _ => ?_
  cases c.binding with
  | none => exact fixes_pure _
  | some p => exact fixes_release hr p

theorem fixes_registerLoaderWith (l : L) : Fixes f (registerLoaderWith reenter l) := by
  unfold registerLoaderWith
  refine (fixes_checkOperable _).bind fun _ => fixes_current.bind fun c => ?_
  -- the closing join point logs the registration and installs the binding
  extract_lets fresh finish
  have hfinish : ∀ b, Fixes f (finish b) := fun b =>
    (fixes_log _ _ _).bind fun _ => fixes_installWith hf hr b
  split
  · refine (hr _).bind fun _ => (fixes_lift _).bind fun p => ?_
    obtain ⟨r, b⟩ := p
    exact (fixes_orFail r).bind fun _ => (fixes_pure b).bind hfinish
  · exact (fixes_pure _).bind hfinish

theorem fixes_attachDeclaredLoaderWith (t : L) :
    Fixes f (attachDeclaredLoaderWith reenter t) := by
  unfold attachDeclaredLoaderWith
  refine fixes_current.bind fun c => ?_
  -- after the refusal check: the template is cloned, disposed and the clone installed
  extract_lets attach
  have hattach : ∀ u, Fixes f (attach u) := fun _ => by
    refine (fixes_lift _).bind fun p => ?_
    exact (fixes_lift _).discard.bind fun _ => (fixes_orFail _).bind fun b =>
      fixes_installWith hf hr b
  split
  · exact (fixes_throw _).bind hattach
  · exact hattach ()

omit [Named L] [KeyedLoader L W] [Journal W] in
theorem fixes_replaceListenersWith [Listener E W] (ls : List E) :
    Fixes f (replaceListenersWith reenter ls) :=
  (fixes_checkOperable _).bind fun _ => fixes_current.bind fun _ =>
    (fixes_modify fun c => hf.listeners c _).bind fun _ =>
      fixes_forM _ (fixes_releaseListener hr) _

theorem fixes_disposeWith [Listener E W] [Handler H W] [Storage S W]
    (hs : ∀ c s, f { c with status := s } = f c) : Fixes f (disposeWith reenter) := by
  unfold disposeWith
  refine fixes_current.bind fun c => ?_
  split
  · refine (fixes_modify fun c =>
      (hs { c with binding := none } .disposing).trans (hf.binding c none)).bind fun _ => ?_
    -- two join points: what follows the loader's disposal, and what follows the store's release
    extract_lets finish release
    have hfinish : ∀ u, Fixes f (finish u) := fun _ =>
      (fixes_modify fun c => hs c _).bind fun _ => fixes_log _ _ _
    have hrelease : ∀ u, Fixes f (release u) := fun _ => by
      refine (fixes_modify fun c => hf.listeners c _).bind fun _ => ?_
      refine (fixes_forM _ (fixes_releaseListener hr) _).bind fun _ => ?_
      refine (fixes_onStore hf.store _).bind fun r => ?_
      cases r with
      | error e => exact (fixes_log _ _ _).bind hfinish
      | ok u => exact hfinish ()
    cases c.binding with
    | some b => exact (fixes_release hr b).bind hrelease
    | none => exact hrelease ()
  · exact fixes_pure _

end

variable [Named L] [KeyedLoader L W] [Journal W]

theorem fixes_registerLoader (l : L) : Fixes f (registerLoader l : CacheM L E H S W _) :=
  fixes_registerLoaderWith hf fixes_noCalls l

theorem fixes_attachDeclaredLoader (t : L) :
    Fixes f (attachDeclaredLoader t : CacheM L E H S W _) :=
  fixes_attachDeclaredLoaderWith hf fixes_noCalls t

omit [Named L] [KeyedLoader L W] in
theorem fixes_registerListener [Named E] (l : E) :
    Fixes f (registerListener l : CacheM L E H S W _) :=
  (fixes_checkOperable _).bind fun _ => fixes_current.bind fun _ =>
    (fixes_log _ _ _).bind fun _ => fixes_modify fun c => hf.listeners c _

omit [Named L] [KeyedLoader L W] [Journal W] in
theorem fixes_replaceListeners [Listener E W] (ls : List E) :
    Fixes f (replaceListeners ls : CacheM L E H S W _) :=
  fixes_replaceListenersWith hf fixes_noCalls ls

/-! ## The lifecycle -/

omit hf [Named L] [KeyedLoader L W] [Journal W] in
theorem fixes_markAlive (hs : ∀ c s, f { c with status := s } = f c) :
    Fixes f (markAlive : CacheM L E H S W _) :=
  fixes_current.bind fun _ => (fixes_orFail _).bind fun _ => fixes_modify fun c => hs c _

theorem fixes_initBinding : Fixes f (initBinding : CacheM L E H S W _) := by
  unfold initBinding
  refine fixes_current.bind fun c => (fixes_onBinding hf.binding _).bind fun r => ?_
  -- the closing log line is the do-block's join point
  extract_lets finish
  have hfinish : ∀ u, Fixes f (finish u) := fun _ => fixes_log _ _ _
  cases r with
  | some r => exact (fixes_orFail r).bind hfinish
  | none => exact hfinish ()

theorem fixes_initialise (hs : ∀ c s, f { c with status := s } = f c) :
    Fixes f (initialise : CacheM L E H S W _) :=
  (fixes_markAlive hs).bind fun _ => fixes_initBinding hf

theorem fixes_dispose [Listener E W] [Handler H W] [Storage S W]
    (hs : ∀ c s, f { c with status := s } = f c) : Fixes f (dispose : CacheM L E H S W _) :=
  fixes_disposeWith hf fixes_noCalls hs

end

end

/-! ## Settings -/

theorem blind_settings : Blind (Cache.settings : Cache L E H S → Settings) :=
  ⟨fun _ _ => rfl, fun _ _ => rfl, fun _ _ => rfl⟩

section
variable [Named L] [KeyedLoader L W] [Journal W]

theorem fixesSettings_initialise : FixesSettings (initialise : CacheM L E H S W _) :=
  fixes_initialise blind_settings fun _ _ => rfl

theorem fixesSettings_attachDeclaredLoader (template : L) :
    FixesSettings (attachDeclaredLoader template : CacheM L E H S W _) :=
  fixes_attachDeclaredLoader blind_settings template

theorem fixesSettings_dispose [Listener E W] [Handler H W] [Storage S W] :
    FixesSettings (dispose : CacheM L E H S W _) :=
  fixes_dispose blind_settings fun _ _ => rfl

end

/-! ## Operations that cannot fail -/

/-- Running the operation succeeds from every cache and world, and leaves a cache with `P`. -/
def Succeeds (x : CacheM L E H S W α) (P : Cache L E H S → Prop) : Prop :=
  ∀ c w, ∃ a, (exec x c w).1.1 = .ok a ∧ P (exec x c w).1.2

theorem succeeds_pure (a : α) : Succeeds (pure a : CacheM L E H S W α) fun _ => True :=
  fun _ _ => ⟨a, rfl, trivial⟩

theorem succeeds_current : Succeeds (current : CacheM L E H S W _) fun _ => True :=
  fun c _ => ⟨c, rfl, trivial⟩

theorem succeeds_lift (act : StateM W α) :
    Succeeds (monadLift act : CacheM L E H S W α) fun _ => True :=
  fun _ w => ⟨(act.run w).1, rfl, trivial⟩

theorem succeeds_modify (f : Cache L E H S → Cache L E H S) :
    Succeeds (modify f : CacheM L E H S W Unit) fun _ => True :=
  fun _ _ => ⟨(), rfl, trivial⟩

theorem Succeeds.bind {x : CacheM L E H S W α} {f : α → CacheM L E H S W β}
    {P : Cache L E H S → Prop} (hx : Succeeds x fun _ => True) (hf : ∀ a, Succeeds (f a) P) :
    Succeeds (x >>= f) P := by
  intro c w
  obtain ⟨a, ha, -⟩ := hx c w
  rw [exec_bind]
  rcases h : exec x c w with ⟨⟨r, c'⟩, w'⟩
  rw [h] at ha
  cases ha
  exact hf a c' w'

theorem Succeeds.discard {x : CacheM L E H S W α} (hx : Succeeds x fun _ => True) :
    Succeeds (discard x) fun _ => True := by
  intro c w
  obtain ⟨a, ha, -⟩ := hx c w
  rw [exec_discard]
  rcases h : exec x c w with ⟨⟨r, c'⟩, w'⟩
  rw [h] at ha
  cases ha
  exact ⟨(), rfl, trivial⟩

/-- A caught operation succeeds whenever its handler does, whatever the operation. -/
theorem succeeds_tryCatch (x : CacheM L E H S W α) {g : Failure → CacheM L E H S W α}
    (hg : ∀ e, Succeeds (g e) fun _ => True) :
    Succeeds (MonadExcept.tryCatch x g) fun _ => True := by
  intro c w
  rw [exec_tryCatch]
  rcases exec x c w with ⟨⟨r, c'⟩, w'⟩
  cases r with
  | ok a => exact ⟨a, rfl, trivial⟩
  | error e => exact hg e c' w'

theorem succeeds_forM {γ : Type} (g : γ → CacheM L E H S W PUnit)
    (hg : ∀ a, Succeeds (g a) fun _ => True) : ∀ l : List γ, Succeeds (l.forM g) fun _ => True
  | [] => succeeds_pure _
  | a :: l => by
    rw [List.forM_eq_forM, List.forM_cons]
    exact (hg a).bind fun _ => succeeds_forM g hg l

section
variable [Listener E W] [Handler H W] [Storage S W] [Journal W]

/-- A listener's failure on a dropped entry is caught and logged. -/
theorem succeeds_relayRemovals : Succeeds (relayRemovals : CacheM L E H S W _) fun _ => True := by
  unfold relayRemovals
  refine succeeds_current.bind fun c => (succeeds_lift _).bind fun p => ?_
  refine (succeeds_modify _).bind fun _ => succeeds_forM _ (fun r => ?_) _
  exact succeeds_tryCatch _ fun _ => succeeds_current.bind fun _ => succeeds_lift _

theorem succeeds_onStore (act : StoreM S W α) :
    Succeeds (onStore act : CacheM L E H S W α) fun _ => True := by
  unfold onStore
  refine succeeds_current.bind fun c => (succeeds_lift _).bind fun p => ?_
  exact (succeeds_modify _).bind fun _ => succeeds_relayRemovals.bind fun _ => succeeds_pure _

end

/-- An operation that cannot fail and keeps the whole cache only moves the world. -/
theorem exec_of_fixes_succeeds {x : CacheM L E H S W α} (hf : Fixes id x)
    (hs : Succeeds x fun _ => True) (c : Cache L E H S) (w : W) :
    ∃ a w', exec x c w = ((.ok a, c), w') := by
  obtain ⟨a, ha, -⟩ := hs c w
  have hc := hf c w
  refine ⟨a, (exec x c w).2, ?_⟩
  rcases h : exec x c w with ⟨⟨r, c'⟩, w'⟩
  rw [h] at ha hc
  cases ha
  change c' = c at hc
  subst hc
  rfl

section
variable [Listener E W] [Handler H W] [Storage S W] [Journal W] {c : Cache L E H S} {w : W}

/-- Relaying removals takes them from the store; telling the listeners of them, and logging
their failures, leaves the cache as it was. -/
theorem exec_relayRemovals_taken {rs : List Removal} {s : S} {w₁ : W}
    (ht : ((Storage.takeRemovals (S := S) (W := W)).run c.store).run w = ((rs, s), w₁)) :
    ∃ w', exec (relayRemovals : CacheM L E H S W _) c w = ((.ok (), { c with store := s }), w') := by
  unfold relayRemovals
  rw [exec_bind, exec_current]
  dsimp only
  rw [exec_bind, exec_lift, ht]
  dsimp only
  rw [exec_bind, exec_modify]
  dsimp only
  obtain ⟨u, w', h⟩ := exec_of_fixes_succeeds
    (fixes_forM _ (fun _ => (fixes_notify _ _).tryCatch fun _ =>
      fixes_current.bind fun _ => fixes_log _ _ _) rs)
    (succeeds_forM _ (fun _ => succeeds_tryCatch _ fun _ =>
      succeeds_current.bind fun _ => succeeds_lift _) rs)
    { c with store := s } w₁
  exact ⟨w', h⟩

/-- A store action leaves the cache with the store it made, the removals it noticed taken. -/
theorem exec_onStore_taken (act : StoreM S W α) {a : α} {s s' : S} {rs : List Removal} {w₁ w₂ : W}
    (h : (act.run c.store).run w = ((a, s), w₁))
    (ht : ((Storage.takeRemovals (S := S) (W := W)).run s).run w₁ = ((rs, s'), w₂)) :
    ∃ w', exec (onStore act : CacheM L E H S W α) c w = ((.ok a, { c with store := s' }), w') := by
  obtain ⟨w', hr⟩ := exec_relayRemovals_taken (c := { c with store := s }) ht
  rw [exec_onStore_eq act h, exec_bind, hr]
  exact ⟨w', rfl⟩

end

/-- A binding is released without failing when the calls its `dispose` makes cannot fail. -/
theorem succeeds_release [Named L] [KeyedLoader L W] [Journal W]
    {reenter : Callback L E → CacheM L E H S W Unit}
    (hr : ∀ cb, Succeeds (reenter cb) fun _ => True) (b : Binding L) :
    Succeeds (release reenter b) fun _ => True := by
  unfold release
  extract_lets finish
  have hfinish : ∀ u, Succeeds (finish u) fun _ => True := fun _ => (succeeds_lift _).discard
  split
  · exact (hr _).bind hfinish
  · exact hfinish ()

/-- Disposal never fails; it leaves an operable cache disposed and any other cache as it was. -/
theorem dispose_status [Named L] [KeyedLoader L W] [Listener E W] [Handler H W] [Storage S W]
    [Journal W] (c : Cache L E H S) (w : W) :
    (exec (dispose : CacheM L E H S W _) c w).1.1 = .ok () ∧
      (exec (dispose : CacheM L E H S W _) c w).1.2.status =
        if c.status.isOperable then .disposed else c.status := by
  unfold dispose disposeWith
  rw [exec_bind, exec_current]
  dsimp -zeta only
  by_cases hc : c.status.isOperable = true
  · rw [if_pos hc, if_pos hc]
    have hdone : ∀ x : CacheM L E H S W Unit, Succeeds x (·.status = .disposed) →
        (exec x c w).1.1 = .ok () ∧ (exec x c w).1.2.status = .disposed := fun x hx => by
      obtain ⟨u, hu, hs⟩ := hx c w
      exact ⟨hu, hs⟩
    apply hdone
    refine (succeeds_modify _).bind fun _ => ?_
    -- what follows the loader's disposal, and what follows the store's release
    extract_lets finish release
    have hfinish : ∀ u, Succeeds (finish u) (·.status = .disposed) := fun _ _ _ => ⟨(), rfl, rfl⟩
    have hrelease : ∀ u, Succeeds (release u) (·.status = .disposed) := fun _ => by
      refine (succeeds_modify _).bind fun _ => ?_
      refine (succeeds_forM _ (fun _ => (succeeds_pure ()).bind fun _ => succeeds_lift _) _).bind
        fun _ => ?_
      refine (succeeds_onStore _).bind fun r => ?_
      cases r with
      | error e => exact (succeeds_lift _).bind hfinish
      | ok u => exact hfinish ()
    cases c.binding with
    | some b => exact (succeeds_release (fun _ => succeeds_pure ()) b).bind hrelease
    | none => exact hrelease ()
  · rw [if_neg hc, if_neg hc, exec_pure]
    exact ⟨rfl, rfl⟩

end NamedCaches.Cache
