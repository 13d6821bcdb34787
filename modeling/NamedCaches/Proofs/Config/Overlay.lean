import NamedCaches.Proofs.Registry.Build
import NamedCaches.Bench.World
set_option autoImplicit false
/-!
# Laying declarations over one another

A declaration laid over another (`CacheDecl.mergedOver`) takes each field from the upper one
when it declares it and from the lower one otherwise. Field by field this is `Option.or`, so
laying over is associative, the declaration that declares nothing (`{}`) is its unit on both
sides, and a declaration laid over itself is itself. Equality is field by field, and two
expiries are equal when their units and amounts are, not merely their whole seconds.

A named source merged over a base source (`mergeSources`) lays each cache the named source
declares over the base's declaration of it; a cache only the named source declares is taken as
it is, which is the same as laying it over the empty declaration (`over_eq_mergedOver`), and a
cache only the base declares is kept. The main statement is `mergeSources_overlays`.
-/

namespace NamedCaches

open Json

namespace CacheDecl

@[simp] theorem mergedOver_empty (a : CacheDecl) : a.mergedOver {} = a := by
  cases a
  simp [mergedOver]

@[simp] theorem empty_mergedOver (a : CacheDecl) : mergedOver {} a = a := by
  cases a
  simp [mergedOver]

@[simp] theorem mergedOver_self (a : CacheDecl) : a.mergedOver a = a := by
  cases a
  simp [mergedOver]

theorem mergedOver_assoc (a b c : CacheDecl) :
    (a.mergedOver b).mergedOver c = a.mergedOver (b.mergedOver c) := by
  simp only [mergedOver, Option.or_assoc]

/-- Taking a declaration as it is where the base declares nothing is laying it over nothing. -/
theorem over_eq_mergedOver (d : CacheDecl) (b : Option CacheDecl) :
    d.over b = d.mergedOver (b.getD {}) := by
  cases b with
  | none => exact (mergedOver_empty d).symm
  | some b => rfl

end CacheDecl

/-- With each cache once in the named source, a cache's merged declaration is the named source's
laid over the base's (over nothing if the base has none), or the base's when the named source
has none. -/
theorem get?_mergeDeclarations_overlay (base named : Declarations)
    (hn : (named.map Prod.fst).Nodup) (c : String) :
    Fields.get? c (mergeDeclarations base named) =
      ((Fields.get? c named).map fun d => d.mergedOver ((Fields.get? c base).getD {})).or
        (Fields.get? c base) := by
  rw [get?_mergeDeclarations c named base hn]
  cases Fields.get? c named with
  | none => rfl
  | some d => simp [CacheDecl.over_eq_mergedOver]

/-- Merging two sources that load answers the merge of their declarations, whatever the world. -/
theorem mergeSources_loaded {W : Type} [Journal W] (files : Files) {base named : Source}
    {b d : Declarations} (hb : base.load files = .ok b) (hd : named.load files = .ok d) (w : W) :
    ((mergeSources files base (some named)).run w).1 = .ok (mergeDeclarations b d) := by
  unfold mergeSources
  rw [hb]
  dsimp only
  rw [hd]
  rfl

/-- Laying declarations over one another is associative, has the empty declaration as its unit
on both sides and leaves a declaration laid over itself as it is. Merging a named source over a
base source, both of which load, gives every cache the named source declares its declaration
laid over the base's or, where the base declares none, over the empty one, and every other cache
the base's declaration. -/
theorem mergeSources_overlays (a b c : CacheDecl) :
    a.mergedOver {} = a ∧ CacheDecl.mergedOver {} a = a ∧ a.mergedOver a = a ∧
      (a.mergedOver b).mergedOver c = a.mergedOver (b.mergedOver c) ∧
      ∀ {W : Type} [Journal W] (files : Files) (base named : Source) (bs ds : Declarations)
        (w : W), base.load files = .ok bs → named.load files = .ok ds →
        (ds.map Prod.fst).Nodup →
        ∃ merged, ((mergeSources files base (some named)).run w).1 = .ok merged ∧
          ∀ name, Fields.get? name merged =
            ((Fields.get? name ds).map fun d => d.mergedOver ((Fields.get? name bs).getD {})).or
              (Fields.get? name bs) := by
  refine ⟨a.mergedOver_empty, a.empty_mergedOver, a.mergedOver_self,
    CacheDecl.mergedOver_assoc a b c, ?_⟩
  intro W _ files base named bs ds w hb hd hn
  exact ⟨mergeDeclarations bs ds, mergeSources_loaded files hb hd w,
    get?_mergeDeclarations_overlay bs ds hn⟩

/-- The base declares `c` idle for six minutes with room for five entries. -/
def overlayBaseDecls : Declarations :=
  [("c", { accessed := some ⟨.minutes, 6⟩, maxEntries := some 5 })]

/-- The named source declares `c` idle for 360 seconds, and `n`, copied on read. -/
def overlayNamedDecls : Declarations :=
  [("c", { accessed := some (.seconds 360) }), ("n", { copyOnRead := some true })]

theorem mergeSources_overlays_reporting :
    Source.load Files.empty ⟨"default", .declared (.ofList overlayBaseDecls)⟩ =
        .ok overlayBaseDecls ∧
      Source.load Files.empty ⟨"reporting", .declared (.ofList overlayNamedDecls)⟩ =
        .ok overlayNamedDecls ∧
      (overlayNamedDecls.map Prod.fst).Nodup ∧
      ∃ merged, ((mergeSources Files.empty ⟨"default", .declared (.ofList overlayBaseDecls)⟩
          (some ⟨"reporting", .declared (.ofList overlayNamedDecls)⟩)).run ({} : World)).1 =
            .ok merged ∧
        ∀ name, Fields.get? name merged =
          ((Fields.get? name overlayNamedDecls).map fun d =>
              d.mergedOver ((Fields.get? name overlayBaseDecls).getD {})).or
            (Fields.get? name overlayBaseDecls) :=
  ⟨rfl, rfl, by decide, (mergeSources_overlays {} {} {}).2.2.2.2 (W := World) Files.empty
    ⟨"default", .declared (.ofList overlayBaseDecls)⟩
    ⟨"reporting", .declared (.ofList overlayNamedDecls)⟩
    overlayBaseDecls overlayNamedDecls {} rfl rfl (by decide)⟩

/-- The named source's 360 seconds replace the base's six minutes, unit and all, and the base's
capacity stays. -/
example : (Fields.get? "c" (mergeDeclarations overlayBaseDecls overlayNamedDecls)).map
    (fun d => (d.accessed, d.maxEntries)) = some (some (.seconds 360), some 5) := by decide

end NamedCaches
