import Expectation.Proofs.Json.Places
import Expectation.Proofs.Json.Succession
import Expectation.Proofs.Text.Pieces

/-!
# Paths that name one place

A path is put together step by step and kept as a text.  A point opens a key and a bracket an
index; an index ends with its closing bracket, a key only where the next step opens.  So the
steps can be read off a path as long as no key holds a point or an opening bracket, and then
what lies behind one step of a value never lies behind another.

`Options.covers` asks a question about texts, whether one path begins another and the rest
opens a step.  For such places it is the question whether one place is on the way to the other.

## Main results

* `step_eq_of_covers`: a path lies behind one step of a value only.
* `covers_render_iff`: a place is covered exactly by those on the way to it.
* `render_injective`: a path names one place.
* `plain_of_at?`: the places of a tree with plain keys.
* `unordered_render_iff`: the order of an array does not count exactly where an entry names the
  array or something it lies in.
-/

namespace Expectation.Json

open Json.Options (covers covers_eq_true_iff)

/-! ## Steps -/

/-- A key without the marks that open steps. -/
def IsPlainKey (key : String) : Prop := '.' ∉ key.toList ∧ '[' ∉ key.toList

instance (key : String) : Decidable (IsPlainKey key) :=
  inferInstanceAs (Decidable (_ ∧ _))

/-- A step whose end can be seen. -/
def Step.Plain : Step → Prop
  | .key k => IsPlainKey k
  | .index _ => True

/-- Every step of the way is plain. -/
def Place.Plain (q : Place) : Prop := ∀ s ∈ q, s.Plain

/-- What a step adds to a path. -/
def Step.text : Step → List Char
  | .key k => '.' :: k.toList
  | .index i => '[' :: (Nat.toDigits 10 i ++ [']'])

theorem Step.toList_extend (path : String) (s : Step) :
    (s.extend path).toList = path.toList ++ s.text := by
  cases s <;> simp [Step.extend, Step.text, keyPath, indexPath]

/-- What may stand behind a path in a path that it covers: nothing, or steps. -/
def OpensStep (rest : List Char) : Prop := ∀ c ∈ rest.head?, c = '.' ∨ c = '['

theorem opensStep_text (s : Step) : OpensStep s.text := by
  cases s <;> simp [OpensStep, Step.text]

theorem OpensStep.append {rest rest' : List Char} (h : OpensStep rest) (h' : OpensStep rest') :
    OpensStep (rest ++ rest') := by
  cases rest with
  | nil => exact h'
  | cons c rest => exact h

/-- **Steps are told by their text**, with any further steps behind it. -/
theorem text_append_inj {s t : Step} (hs : s.Plain) (ht : t.Plain) {rest rest' : List Char}
    (hrest : OpensStep rest) (hrest' : OpensStep rest') (h : s.text ++ rest = t.text ++ rest') :
    s = t ∧ rest = rest' := by
  cases s with
  | key k =>
      cases t with
      | key l =>
          have hinside : ∀ {key : String}, IsPlainKey key →
              ∀ c ∈ key.toList, ¬ (c = '.' ∨ c = '[') := by
            rintro key hkey c hc (rfl | rfl)
            · exact hkey.1 hc
            · exact hkey.2 hc
          obtain ⟨hkeys, rfl⟩ := Text.append_inj_of_alphabet (hinside hs) (hinside ht)
            (fun c hc => not_not.mpr (hrest c hc)) (fun c hc => not_not.mpr (hrest' c hc))
            (List.cons.inj h).2
          rw [String.toList_inj.mp hkeys]
          exact ⟨rfl, rfl⟩
      | index j => simp [Step.text] at h
  | index i =>
      cases t with
      | key l => simp [Step.text] at h
      | index j =>
          have hdigits : ∀ n, ∀ c ∈ Nat.toDigits 10 n, c.isDigit = true :=
            fun n c hc => Text.isDigit_of_mem_toDigits hc
          have hend : ∀ r : List Char, ∀ c ∈ (']' :: r).head?, ¬ c.isDigit = true := by
            rintro r c ⟨⟩
            decide
          have htext : Nat.toDigits 10 i ++ ']' :: rest = Nat.toDigits 10 j ++ ']' :: rest' := by
            simpa [Step.text] using h
          obtain ⟨hindex, hbehind⟩ :=
            Text.append_inj_of_alphabet (hdigits i) (hdigits j) (hend rest) (hend rest') htext
          rw [Text.toDigits_injective hindex]
          exact ⟨rfl, (List.cons.inj hbehind).2⟩

/-! ## Covered paths -/

theorem covers_iff_exists {entry path : String} :
    covers entry path = true ↔ ∃ rest, path.toList = entry.toList ++ rest ∧ OpensStep rest := by
  rw [covers_eq_true_iff]
  constructor
  · rintro (hsame | ⟨c, rest, hpath, hc⟩)
    · exact ⟨[], by rw [hsame, List.append_nil], nofun⟩
    · exact ⟨c :: rest, hpath, fun d hd => Option.some.inj hd ▸ hc⟩
  · rintro ⟨rest, hpath, hrest⟩
    cases rest with
    | nil => exact .inl (by rw [hpath, List.append_nil])
    | cons c rest => exact .inr ⟨c, rest, hpath, hrest c rfl⟩

theorem covers_refl (path : String) : covers path path = true :=
  covers_iff_exists.mpr ⟨[], (List.append_nil _).symm, nofun⟩

theorem covers_trans {a b c : String} (hab : covers a b = true) (hbc : covers b c = true) :
    covers a c = true := by
  obtain ⟨rest, hb, hrest⟩ := covers_iff_exists.mp hab
  obtain ⟨rest', hc, hrest'⟩ := covers_iff_exists.mp hbc
  refine covers_iff_exists.mpr ⟨rest ++ rest', ?_, hrest.append hrest'⟩
  rw [hc, hb, List.append_assoc]

theorem covers_extend (path : String) (s : Step) : covers path (s.extend path) = true :=
  covers_iff_exists.mpr ⟨s.text, Step.toList_extend path s, opensStep_text s⟩

theorem covers_render (path : String) (q : Place) : covers path (q.render path) = true := by
  induction q generalizing path with
  | nil => exact covers_refl path
  | cons s q ih => exact covers_trans (covers_extend path s) (ih (s.extend path))

/-- A value does not lie behind one of its own steps. -/
theorem not_covers_extend (path : String) (s : Step) : covers (s.extend path) path = false := by
  rw [Bool.eq_false_iff]
  intro h
  obtain ⟨rest, hpath, -⟩ := covers_iff_exists.mp h
  have hlength := congrArg List.length hpath
  have hpos : 0 < s.text.length := by cases s <;> simp [Step.text]
  rw [Step.toList_extend, List.length_append, List.length_append] at hlength
  omega

/-- **A path lies behind one step of a value only.** -/
theorem step_eq_of_covers {s t : Step} (hs : s.Plain) (ht : t.Plain) {path x : String}
    (h : covers (s.extend path) x = true) (h' : covers (t.extend path) x = true) : s = t := by
  obtain ⟨rest, hx, hrest⟩ := covers_iff_exists.mp h
  obtain ⟨rest', hx', hrest'⟩ := covers_iff_exists.mp h'
  rw [hx, Step.toList_extend, Step.toList_extend, List.append_assoc, List.append_assoc] at hx'
  exact (text_append_inj hs ht hrest hrest' (List.append_cancel_left hx')).1

/-! ## Places -/

/-- **A place is covered exactly by those on the way to it.** -/
theorem covers_render_iff {p q : Place} (hp : p.Plain) (hq : q.Plain) (path : String) :
    covers (p.render path) (q.render path) = true ↔ p <+: q := by
  constructor
  · intro h
    induction p generalizing q path with
    | nil => exact List.nil_prefix
    | cons s p ih =>
        obtain ⟨hs, hp⟩ := List.forall_mem_cons.mp hp
        have hstep : covers (s.extend path) (q.render path) = true :=
          covers_trans (covers_render (s.extend path) p) h
        cases q with
        | nil => exact absurd hstep (by simp [Place.render, not_covers_extend])
        | cons t q =>
            obtain ⟨ht, hrest⟩ := List.forall_mem_cons.mp hq
            obtain rfl := step_eq_of_covers hs ht hstep (covers_render (t.extend path) q)
            exact List.cons_prefix_cons.mpr ⟨rfl, ih hp hrest (s.extend path) h⟩
  · rintro ⟨r, rfl⟩
    rw [Place.render_append]
    exact covers_render _ r

/-- **A path names one place.** -/
theorem render_injective {p q : Place} (hp : p.Plain) (hq : q.Plain) {path : String}
    (h : p.render path = q.render path) : p = q := by
  have hpq : p <+: q := (covers_render_iff hp hq path).mp (h ▸ covers_refl _)
  have hqp : q <+: p := (covers_render_iff hq hp path).mp (h ▸ covers_refl _)
  exact hpq.eq_of_length_le hqp.length_le

/-! ## The places of a tree -/

namespace Value

/-- The keys of an object. -/
def keys : Value → List String
  | .object members => members.map Prod.fst
  | _ => []

/-- Every key in the tree is plain. -/
def PlainKeys (v : Value) : Prop := v.Everywhere fun w => ∀ k ∈ w.keys, IsPlainKey k

instance (v : Value) : Decidable v.PlainKeys := inferInstanceAs (Decidable (v.Everywhere _))

theorem PlainKeys.items {items : List Value} (h : (Value.array items).PlainKeys) :
    ∀ v ∈ items, v.PlainKeys :=
  (everywhere_array.mp h).2

theorem PlainKeys.members {members : List (String × Value)}
    (h : (Value.object members).PlainKeys) : ∀ k v, (k, v) ∈ members → v.PlainKeys :=
  (everywhere_object.mp h).2

theorem PlainKeys.key {members : List (String × Value)} (h : (Value.object members).PlainKeys) :
    ∀ m ∈ members, IsPlainKey m.1 :=
  fun _ hm => h.self _ (List.mem_map_of_mem hm)

/-- Where a step leads, the rest of the way goes on. -/
theorem at?_cons_of_step? {v w : Value} {s : Step} (h : v.step? s = some w) (q : Place) :
    v.at? (s :: q) = w.at? q := by
  rw [at?_cons, h, Option.bind_some]

/-- Every place in a tree with plain keys is plain. -/
theorem PlainKeys.plain_of_at? {v w : Value} (h : v.PlainKeys) {q : Place}
    (hq : v.at? q = some w) : q.Plain := by
  induction q generalizing v with
  | nil => exact fun s hs => absurd hs List.not_mem_nil
  | cons s q ih =>
      rw [at?_cons, Option.bind_eq_some_iff] at hq
      obtain ⟨u, hu, hw⟩ := hq
      refine List.forall_mem_cons.mpr ⟨?_, ih (h.step? hu) hw⟩
      cases s with
      | index i => trivial
      | key k =>
          cases v with
          | object members => exact h.key _ (mem_of_lookup_eq_some hu)
          | _ => exact absurd hu (by simp [Value.step?])

/-- The place leads somewhere in a tree with plain keys. -/
def IsPlainPlace (q : Place) : Prop := ∃ v w : Value, v.PlainKeys ∧ v.at? q = some w

theorem IsPlainPlace.plain {q : Place} (h : IsPlainPlace q) : q.Plain := by
  obtain ⟨v, w, hv, hw⟩ := h
  exact hv.plain_of_at? hw

end Value

/-! ## Arrays whose order does not count -/

/-- **Whether an entry covers a path is whether it names the value there or one around it.**
Each entry of the options is the path of a place; the order of the array at another place does
not count exactly if one of these places is on the way to it. -/
theorem unordered_render_iff {o : Options} (hall : o.ignoreArrayOrder = false) {path : String}
    (hentries : ∀ entry ∈ o.ignoreArrayOrderPaths,
      ∃ p, Value.IsPlainPlace p ∧ Place.render path p = entry)
    {q : Place} (hq : Value.IsPlainPlace q) :
    o.unordered (q.render path) = true ↔
      ∃ entry ∈ o.ignoreArrayOrderPaths, ∃ p, Place.render path p = entry ∧ p <+: q := by
  rw [Options.unordered, hall, Bool.false_or, List.any_eq_true]
  refine exists_congr fun entry => and_congr_right fun hentry => ?_
  constructor
  · intro hcovers
    obtain ⟨p, hp, rfl⟩ := hentries entry hentry
    exact ⟨p, rfl, (covers_render_iff hp.plain hq.plain path).mp hcovers⟩
  · rintro ⟨p, rfl, hpq⟩
    have hp : p.Plain := fun s hs => hq.plain s (hpq.subset hs)
    exact (covers_render_iff hp hq.plain path).mpr hpq

/-- One key begins another one, and a key is empty. -/
theorem unordered_render_items :
    let o : Options := ⟨false, ["$.item", "$.items[1]"], []⟩
    let v : Value := .object [("item", .null), ("items", .array [.null, .object [("", .array [])]])]
    v.PlainKeys ∧ v.at? [.key "item"] = some .null ∧
      v.at? [.key "items", .index 1] = some (.object [("", .array [])]) ∧
      v.at? [.key "items", .index 1, .key ""] = some (.array []) ∧
      o.unordered "$.items[1]." = true := by
  intro o v
  have hv : v.PlainKeys := by decide
  have hplace : ∀ {q : Place} {w : Value}, v.at? q = some w → Value.IsPlainPlace q :=
    fun hw => ⟨v, _, hv, hw⟩
  have hentries : ∀ entry ∈ o.ignoreArrayOrderPaths,
      ∃ p, Value.IsPlainPlace p ∧ Place.render rootPath p = entry := by
    intro entry hentry
    rcases List.mem_pair.mp hentry with rfl | rfl
    · exact ⟨[.key "item"], hplace rfl, rfl⟩
    · exact ⟨[.key "items", .index 1], hplace rfl, by decide⟩
  refine ⟨hv, rfl, rfl, rfl, ?_⟩
  have hcovered := unordered_render_iff rfl hentries (q := [.key "items", .index 1, .key ""])
    (hplace rfl)
  exact hcovered.mpr ⟨"$.items[1]", by decide, [.key "items", .index 1], by decide, [.key ""], rfl⟩

end Expectation.Json
