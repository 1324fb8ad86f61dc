import Mathlib.Data.List.Forall2
import Mathlib.Data.List.Nodup
import Roadside.Json.Coded

/-!
# Spellings

A value is written in one way and read from many. What it is read from are its spellings: a word may come with null, and
the fields of a record may come in any order among other members, or without their names in a list.

* **Members** (`Json.members?_eq_some_iff`): taking a value apart into named members finds the fields that it tells
  (`Json.Tells`).
* **Reading finds the spellings** of numbers, words, records and cases (`Directions.decode?_eq_some_iff` and its like),
  and what is written is one of them.
* **Values survive** (`coded_roundTrips`): what is written is read back, and writing again what was read changes nothing
  more.
-/

namespace Roadside

open Coded

/-! ## Members -/

namespace Json

variable {members : List (String × Json)} {name kind : String} {names : List String} {value json rest : Json}
  {values : List Json} {fields : List (String × Json)}

/-- Among the members there is exactly one of this name, and it has this value. -/
def HasOnly (members : List (String × Json)) (name : String) (value : Json) : Prop :=
  ∃ before after, members = before ++ (name, value) :: after ∧ ∀ other ∈ before ++ after, other.1 ≠ name

theorem member?_eq_some_iff : member? name members = some value ↔ HasOnly members name value := by
  constructor
  · intro h
    unfold member? at h
    split at h
    case h_1 other _ found =>
      obtain rfl := Option.some.inj h
      obtain ⟨before, after, rfl, hbefore, here, hafter⟩ := List.filter_eq_cons_iff.1 found
      obtain rfl : other = name := of_decide_eq_true here
      refine ⟨before, after, rfl, fun entry hentry same => ?_⟩
      obtain first | last := List.mem_append.1 hentry
      · exact hbefore entry first (decide_eq_true same)
      · exact List.filter_eq_nil_iff.1 hafter entry last (decide_eq_true same)
    case h_2 => cases h
  · rintro ⟨before, after, rfl, others⟩
    have found : (before ++ (name, value) :: after).filter (·.1 = name) = [(name, value)] :=
      List.filter_eq_cons_iff.2 ⟨before, after, rfl,
        fun entry h same => others entry (List.mem_append_left after h) (of_decide_eq_true same), decide_eq_true rfl,
        List.filter_eq_nil_iff.2 fun entry h same =>
          others entry (List.mem_append_right before h) (of_decide_eq_true same)⟩
    rw [member?, found]

/-- The fields are told one by one, each by the only member of its name; or their values are listed. -/
inductive Tells (fields : List (String × Json)) : Json → Prop
  | record {members : List (String × Json)} (only : ∀ field ∈ fields, HasOnly members field.1 field.2) :
      Tells fields (.record members)
  | list : Tells fields (.list (fields.map (·.2)))

theorem mapM_member?_eq_some_iff : (names.mapM fun name => member? name members) = some values ↔
    List.Forall₂ (HasOnly members) names values := by
  induction names generalizing values with
  | nil =>
    rw [List.mapM_nil, List.forall₂_nil_left_iff]
    exact ⟨fun h => (Option.some.inj h).symm, fun h => congrArg some h.symm⟩
  | cons name names ih =>
    simp only [List.mapM_cons, List.forall₂_cons_left_iff, ← member?_eq_some_iff, ← ih]
    constructor
    · intro h
      obtain ⟨value, head, h⟩ := Option.bind_eq_some_iff.1 h
      obtain ⟨rest, tail, h⟩ := Option.bind_eq_some_iff.1 h
      exact ⟨value, rest, head, tail, (Option.some.inj h).symm⟩
    · rintro ⟨value, rest, head, tail, rfl⟩
      rw [head, tail]
      rfl

theorem members?_eq_some_iff : json.members? names = some values ↔
    names.length = values.length ∧ Tells (names.zip values) json := by
  constructor
  · intro h
    cases json with
    | record members =>
      obtain ⟨length, only⟩ := List.forall₂_iff_zip.1 (mapM_member?_eq_some_iff.1 h)
      exact ⟨length, .record fun field hfield => only hfield⟩
    | list items =>
      obtain ⟨length, h⟩ := Option.ite_none_right_eq_some.1 h
      obtain rfl := Option.some.inj h
      refine ⟨length.symm, ?_⟩
      have listed : Tells (names.zip items) (.list ((names.zip items).map (·.2))) := .list
      rwa [List.map_snd_zip (Nat.le_of_eq length)] at listed
    | _ => cases h
  · rintro ⟨length, told⟩
    cases told with
    | record only => exact mapM_member?_eq_some_iff.2 (List.forall₂_iff_zip.2 ⟨length, fun h => only _ h⟩)
    | list =>
      rw [List.map_snd_zip (Nat.le_of_eq length.symm)]
      exact if_pos length.symm

/-! ### Words -/

/-- The word alone, or together with null. -/
inductive IsWord (word : String) : Json → Prop
  | text : IsWord word (.text word)
  | record : IsWord word (.record [(word, .null)])

theorem word?_eq_some_iff {word : String} : json.word? = some word ↔ IsWord word json := by
  constructor
  · intro h
    cases json with
    | text name =>
      obtain rfl := Option.some.inj h
      exact .text
    | record members =>
      obtain _ | ⟨⟨name, value⟩, _ | _⟩ := members
      case cons.nil =>
        cases value with
        | null =>
          obtain rfl := Option.some.inj h
          exact .record
        | _ => cases h
      all_goals cases h
    | _ => cases h
  · rintro (_ | _) <;> rfl

/-- Reading the word of a value is the same as spelling the value by its word. -/
theorem bind_word?_eq_some_iff {α : Type} {read : String → Option α} {v : α} {word : String}
    (reads : ∀ text, read text = some v ↔ text = word) : json.word?.bind read = some v ↔ IsWord word json := by
  simp [Option.bind_eq_some_iff, word?_eq_some_iff, reads]

theorem choice?_eq_some_whole_iff {n : Int} :
    json.choice? = some (name, .whole n) ↔ json = .record [(name, .whole n)] := by
  constructor
  · intro h
    unfold choice? at h
    split at h
    case h_1 => cases h
    case h_2 => rw [Option.some.inj h]
    case h_3 => cases h
  · rintro rfl
    rfl

/-! ### Kinds -/

/-- Leaving out the members of one name leaves the others. -/
theorem hasOnly_filter_iff (other : name ≠ kind) :
    HasOnly (members.filter (·.1 ≠ kind)) name value ↔ HasOnly members name value := by
  have same : (members.filter (·.1 ≠ kind)).filter (·.1 = name) = members.filter (·.1 = name) := by
    rw [List.filter_filter]
    refine List.filter_congr fun entry _ => ?_
    rw [Bool.and_eq_left_iff_imp]
    exact fun h => decide_eq_true fun h' => other ((of_decide_eq_true h).symm.trans h')
  rw [← member?_eq_some_iff, ← member?_eq_some_iff, member?, same, member?]

theorem tells_list_iff : Tells fields (.list values) ↔ values = fields.map (·.2) :=
  ⟨fun | .list => rfl, fun h => h ▸ .list⟩

theorem tells_record_iff : Tells fields (.record members) ↔ ∀ field ∈ fields, HasOnly members field.1 field.2 :=
  ⟨fun | .record only => only, .record⟩

/-- What is left beside the kind tells the other fields. -/
theorem tells_iff_of_kind? (h : kind? json = some (kind, rest)) (others : ∀ field ∈ fields, field.1 ≠ "kind") :
    Tells fields rest ↔ Tells (("kind", .text kind) :: fields) json := by
  cases json with
  | record members =>
    cases found : member? "kind" members with
    | none =>
      rw [kind?, found] at h
      cases h
    | some value =>
      rw [kind?, found] at h
      cases value with
      | text name =>
        obtain ⟨rfl, rfl⟩ := Prod.mk.inj (Option.some.inj h)
        rw [tells_record_iff, tells_record_iff, List.forall_mem_cons]
        refine ⟨fun h => ⟨member?_eq_some_iff.1 found, fun field hfield => ?_⟩, fun h field hfield => ?_⟩
        · exact (hasOnly_filter_iff (others field hfield)).1 (h field hfield)
        · exact (hasOnly_filter_iff (others field hfield)).2 (h.2 field hfield)
      | _ => cases h
  | list items =>
    obtain _ | ⟨_ | _ | _ | _ | name | _ | _, items⟩ := items
    case cons.text =>
      obtain ⟨rfl, rfl⟩ := Prod.mk.inj (Option.some.inj h)
      rw [tells_list_iff, tells_list_iff, List.map_cons, List.cons_inj_right]
    all_goals cases h
  | _ => cases h

theorem exists_kind? (h : Tells (("kind", .text kind) :: fields) json) : ∃ rest, kind? json = some (kind, rest) := by
  cases h with
  | record only =>
    have found := member?_eq_some_iff.2 (only _ List.mem_cons_self)
    exact ⟨_, by rw [kind?, found]; rfl⟩
  | list => exact ⟨_, rfl⟩

theorem isBare_iff : isBare json = true ↔ Tells [] json := by
  cases json with
  | record members => exact ⟨fun _ => .record nofun, fun _ => rfl⟩
  | list items =>
    rw [tells_list_iff]
    cases items <;> simp [isBare]
  | _ => exact ⟨nofun, nofun⟩

end Json

/-! ## Numbers and words -/

variable {json : Json}

theorem decode?_bool_eq_some_iff {b : Bool} : (decode? json : Option Bool) = some b ↔ json = .bool b := by
  cases json with
  | bool _ => exact ⟨fun h => congrArg Json.bool (Option.some.inj h), fun h => congrArg some (Json.bool.inj h)⟩
  | _ => exact ⟨nofun, nofun⟩

/-- A number is written as its index. -/
def Ident.Spells {kind : Kind} (i : Ident kind) (json : Json) : Prop := json = .whole i.index

theorem Ident.decode?_eq_some_iff {kind : Kind} {i : Ident kind} : decode? json = some i ↔ i.Spells json := by
  constructor
  · intro h
    cases json with
    | whole n =>
      obtain ⟨⟨nonneg, small⟩, made⟩ := Option.ite_none_right_eq_some.1 h
      obtain rfl := Option.some.inj made
      rw [Ident.Spells, Ident.index_ofIndex small, Int.toNat_of_nonneg nonneg]
    | _ => cases h
  · rintro rfl
    have fits : (0 : Int) ≤ i.index ∧ (i.index : Int).toNat < UInt32.size := ⟨Int.natCast_nonneg _, i.index_lt⟩
    exact (if_pos fits).trans (congrArg some (Ident.ofIndex_index i))

/-- A side is written as a word. -/
def Side.Spells (s : Side) (json : Json) : Prop := json.IsWord s.text

theorem Side.decode?_eq_some_iff {s : Side} : decode? json = some s ↔ s.Spells json := by
  refine Json.bind_word?_eq_some_iff fun word => ⟨fun h => ?_, fun h => ?_⟩
  · split at h <;> cases h <;> rfl
  · cases s <;> rw [h] <;> rfl

/-- A preference is written as a word. -/
def Preference.Spells (p : Preference) (json : Json) : Prop := json.IsWord p.text

theorem Preference.decode?_eq_some_iff {p : Preference} : decode? json = some p ↔ p.Spells json := by
  refine Json.bind_word?_eq_some_iff fun word => ⟨fun h => ?_, fun h => ?_⟩
  · split at h <;> cases h <;> rfl
  · rcases p with (_ | _) | _ <;> rw [h] <;> rfl

/-! ## Records -/

/-- Access is written as two fields. -/
def Access.Spells (a : Access) (json : Json) : Prop :=
  json.Tells [("forward", .bool a.forward), ("backward", .bool a.backward)]

theorem Access.decode?_eq_some_iff {a : Access} : decode? json = some a ↔ a.Spells json := by
  constructor
  · intro h
    obtain ⟨values, found, h⟩ := Option.bind_eq_some_iff.1 h
    obtain ⟨length, told⟩ := Json.members?_eq_some_iff.1 found
    match values, length with
    | [forward, backward], _ =>
      obtain ⟨_, hforward, h⟩ := Option.bind_eq_some_iff.1 h
      obtain ⟨_, hbackward, h⟩ := Option.bind_eq_some_iff.1 h
      obtain rfl := decode?_bool_eq_some_iff.1 hforward
      obtain rfl := decode?_bool_eq_some_iff.1 hbackward
      obtain rfl := Option.some.inj h
      exact told
  · intro told
    have found : json.members? ["forward", "backward"] = some [.bool a.forward, .bool a.backward] :=
      Json.members?_eq_some_iff.2 ⟨rfl, told⟩
    exact Option.bind_eq_some_iff.2 ⟨_, found, rfl⟩

/-! ## Demands -/

/-- A demand is written as the name of its case, and the name comes with the edge if there is one. -/
inductive Demand.Spells : Demand → Json → Prop
  | any {json : Json} (word : json.IsWord "Any") : Spells .any json
  | forbidden {json : Json} (word : json.IsWord "Forbidden") : Spells .forbidden json
  | exactly (edge : EdgeId) : Spells (.exactly edge) (.record [("Exactly", .whole edge.index)])

theorem Demand.decode?_eq_some_iff {d : Demand} : decode? json = some d ↔ d.Spells json := by
  constructor
  · intro h
    obtain ⟨⟨name, content⟩, found, h⟩ := Option.bind_eq_some_iff.1 h
    split at h
    case h_1 same =>
      obtain ⟨rfl, rfl⟩ := Prod.mk.inj same
      obtain rfl := Option.some.inj h
      exact .any (Json.word?_eq_some_iff.1 (by rw [Json.word?, found]))
    case h_2 same =>
      obtain ⟨rfl, rfl⟩ := Prod.mk.inj same
      obtain rfl := Option.some.inj h
      exact .forbidden (Json.word?_eq_some_iff.1 (by rw [Json.word?, found]))
    case h_3 same =>
      obtain ⟨rfl, rfl⟩ := Prod.mk.inj same
      obtain ⟨edge, read, made⟩ := Option.bind_eq_some_iff.1 h
      obtain rfl := Ident.decode?_eq_some_iff.1 read
      obtain rfl := Option.some.inj made
      rw [Json.choice?_eq_some_whole_iff.1 found]
      exact .exactly edge
    case h_4 => cases h
  · rintro (⟨⟨⟩⟩ | ⟨⟨⟩⟩ | edge)
    case exactly =>
      have read : decode? (.whole edge.index) = some edge := Ident.decode?_eq_some_iff.2 rfl
      exact Option.bind_eq_some_iff.2 ⟨("Exactly", .whole edge.index), rfl, Option.bind_eq_some_iff.2 ⟨edge, read, rfl⟩⟩
    all_goals rfl

/-! ## Directions -/

theorem pairing?_eq_some_iff {arrive depart : Json} {p : Pairing} :
    pairing? arrive depart = some p ↔ p.arrive.Spells arrive ∧ p.depart.Spells depart := by
  rw [← Ident.decode?_eq_some_iff, ← Ident.decode?_eq_some_iff]
  constructor
  · intro h
    obtain ⟨edge, harrive, h⟩ := Option.bind_eq_some_iff.1 h
    obtain ⟨edge', hdepart, h⟩ := Option.bind_eq_some_iff.1 h
    obtain rfl := Option.some.inj h
    exact ⟨harrive, hdepart⟩
  · rintro ⟨harrive, hdepart⟩
    exact Option.bind_eq_some_iff.2 ⟨_, harrive, Option.bind_eq_some_iff.2 ⟨_, hdepart, rfl⟩⟩

theorem only?_eq_some_iff {side : Side} {d : Directions} : only? side json = some d ↔ ∃ p : Pairing,
    d = .only side p ∧ json.Tells [("in_edge", .whole p.arrive.index), ("out_edge", .whole p.depart.index)] := by
  constructor
  · intro h
    obtain ⟨values, found, h⟩ := Option.bind_eq_some_iff.1 h
    obtain ⟨length, told⟩ := Json.members?_eq_some_iff.1 found
    match values, length with
    | [arrive, depart], _ =>
      obtain ⟨p, hp, made⟩ := Option.bind_eq_some_iff.1 h
      obtain ⟨rfl, rfl⟩ := pairing?_eq_some_iff.1 hp
      exact ⟨p, (Option.some.inj made).symm, told⟩
  · rintro ⟨p, rfl, told⟩
    have found : json.members? ["in_edge", "out_edge"] = some [.whole p.arrive.index, .whole p.depart.index] :=
      Json.members?_eq_some_iff.2 ⟨rfl, told⟩
    have paired : pairing? (.whole p.arrive.index) (.whole p.depart.index) = some p :=
      pairing?_eq_some_iff.2 ⟨rfl, rfl⟩
    exact Option.bind_eq_some_iff.2 ⟨_, found, Option.bind_eq_some_iff.2 ⟨p, paired, rfl⟩⟩

theorem both?_eq_some_iff {d : Directions} : both? json = some d ↔ ∃ right left : Pairing, d = .both right left ∧
    json.Tells [("right_in", .whole right.arrive.index), ("right_out", .whole right.depart.index),
      ("left_in", .whole left.arrive.index), ("left_out", .whole left.depart.index)] := by
  constructor
  · intro h
    obtain ⟨values, found, h⟩ := Option.bind_eq_some_iff.1 h
    obtain ⟨length, told⟩ := Json.members?_eq_some_iff.1 found
    match values, length with
    | [rightIn, rightOut, leftIn, leftOut], _ =>
      obtain ⟨right, hright, h⟩ := Option.bind_eq_some_iff.1 h
      obtain ⟨left, hleft, made⟩ := Option.bind_eq_some_iff.1 h
      obtain ⟨rfl, rfl⟩ := pairing?_eq_some_iff.1 hright
      obtain ⟨rfl, rfl⟩ := pairing?_eq_some_iff.1 hleft
      exact ⟨right, left, (Option.some.inj made).symm, told⟩
  · rintro ⟨right, left, rfl, told⟩
    have found : json.members? ["right_in", "right_out", "left_in", "left_out"] = some [.whole right.arrive.index,
        .whole right.depart.index, .whole left.arrive.index, .whole left.depart.index] :=
      Json.members?_eq_some_iff.2 ⟨rfl, told⟩
    have hright : pairing? (.whole right.arrive.index) (.whole right.depart.index) = some right :=
      pairing?_eq_some_iff.2 ⟨rfl, rfl⟩
    have hleft : pairing? (.whole left.arrive.index) (.whole left.depart.index) = some left :=
      pairing?_eq_some_iff.2 ⟨rfl, rfl⟩
    exact Option.bind_eq_some_iff.2 ⟨_, found, Option.bind_eq_some_iff.2 ⟨right, hright,
      Option.bind_eq_some_iff.2 ⟨left, hleft, rfl⟩⟩⟩

/-- Directions are written as their kind and their edges by name. -/
inductive Directions.Spells : Directions → Json → Prop
  | impossible {json : Json} (told : json.Tells [("kind", .text "impossible")]) : Spells .impossible json
  | unrestricted {json : Json} (told : json.Tells [("kind", .text "unrestricted")]) : Spells .unrestricted json
  | both {json : Json} {right left : Pairing} (told : json.Tells [("kind", .text "restricted"),
      ("right_in", .whole right.arrive.index), ("right_out", .whole right.depart.index),
      ("left_in", .whole left.arrive.index), ("left_out", .whole left.depart.index)]) : Spells (.both right left) json
  | only {json : Json} {side : Side} {pairing : Pairing} (told : json.Tells [("kind", .text ("only_" ++ side.text)),
      ("in_edge", .whole pairing.arrive.index), ("out_edge", .whole pairing.depart.index)]) :
      Spells (.only side pairing) json

theorem Directions.decode?_eq_some_iff {d : Directions} : decode? json = some d ↔ d.Spells json := by
  constructor
  · intro h
    obtain ⟨⟨kind, rest⟩, found, h⟩ := Option.bind_eq_some_iff.1 h
    dsimp only at h
    split at h
    case h_1 =>
      obtain ⟨bare, made⟩ := Option.ite_none_right_eq_some.1 h
      obtain rfl := Option.some.inj made
      exact .impossible ((Json.tells_iff_of_kind? found (List.forall_mem_nil _)).1 (Json.isBare_iff.1 bare))
    case h_2 =>
      obtain ⟨bare, made⟩ := Option.ite_none_right_eq_some.1 h
      obtain rfl := Option.some.inj made
      exact .unrestricted ((Json.tells_iff_of_kind? found (List.forall_mem_nil _)).1 (Json.isBare_iff.1 bare))
    case h_3 =>
      obtain ⟨right, left, rfl, told⟩ := both?_eq_some_iff.1 h
      exact .both ((Json.tells_iff_of_kind? found (by simp)).1 told)
    case h_4 =>
      obtain ⟨pairing, rfl, told⟩ := only?_eq_some_iff.1 h
      exact .only ((Json.tells_iff_of_kind? found (by simp)).1 told)
    case h_5 =>
      obtain ⟨pairing, rfl, told⟩ := only?_eq_some_iff.1 h
      exact .only ((Json.tells_iff_of_kind? found (by simp)).1 told)
    case h_6 => cases h
  · intro spells
    cases spells with
    | impossible told =>
      obtain ⟨rest, found⟩ := Json.exists_kind? told
      have bare := Json.isBare_iff.2 ((Json.tells_iff_of_kind? found (List.forall_mem_nil _)).2 told)
      exact Option.bind_eq_some_iff.2 ⟨_, found, if_pos bare⟩
    | unrestricted told =>
      obtain ⟨rest, found⟩ := Json.exists_kind? told
      have bare := Json.isBare_iff.2 ((Json.tells_iff_of_kind? found (List.forall_mem_nil _)).2 told)
      exact Option.bind_eq_some_iff.2 ⟨_, found, if_pos bare⟩
    | both told =>
      obtain ⟨rest, found⟩ := Json.exists_kind? told
      have both := both?_eq_some_iff.2 ⟨_, _, rfl, (Json.tells_iff_of_kind? found (by simp)).2 told⟩
      exact Option.bind_eq_some_iff.2 ⟨_, found, both⟩
    | @only _ side pairing told =>
      obtain ⟨rest, found⟩ := Json.exists_kind? told
      have only : only? side rest = some (.only side pairing) :=
        only?_eq_some_iff.2 ⟨pairing, rfl, (Json.tells_iff_of_kind? found (by simp)).2 told⟩
      refine Option.bind_eq_some_iff.2 ⟨_, found, ?_⟩
      cases side <;> exact only

/-! ## Round trips -/

/-- The written form of the value that is read. -/
def normalize? (α : Type) [Coded α] (json : Json) : Option Json := (decode? json : Option α).map encode

/-- Values are read from their spellings and survive being written. -/
structure RoundTrips (α : Type) [Coded α] (Spells : α → Json → Prop) : Prop where
  decode?_eq_some_iff : ∀ json v, decode? json = some v ↔ Spells v json
  decode?_encode : ∀ v : α, decode? (encode v) = some v
  encode_injective : Function.Injective (encode : α → Json)
  /-- Written once more, a value stays the same and keeps its form. -/
  normalized : ∀ json written, normalize? α json = some written →
    (decode? written : Option α) = decode? json ∧ normalize? α written = some written

/-- It is enough to know the spellings, and that the written form is one of them. -/
theorem RoundTrips.of_spells {α : Type} [Coded α] {Spells : α → Json → Prop}
    (spellings : ∀ json v, decode? json = some v ↔ Spells v json) (spells : ∀ v, Spells v (encode v)) :
    RoundTrips α Spells := by
  have back (v : α) : decode? (encode v) = some v := (spellings _ v).2 (spells v)
  constructor
  case decode?_eq_some_iff => exact spellings
  case decode?_encode => exact back
  case encode_injective => exact fun v w same => Option.some.inj ((back v).symm.trans (same ▸ back w))
  case normalized =>
    intro json written h
    obtain ⟨v, read, rfl⟩ := Option.map_eq_some_iff.1 h
    exact ⟨(back v).trans read.symm, by rw [normalize?, back]; rfl⟩

namespace Json

variable {fields : List (String × Json)}

/-- Fields of different names tell themselves. -/
theorem tells_self (nodup : (fields.map (·.1)).Nodup) : Tells fields (.record fields) := by
  refine .record fun field hfield => ?_
  obtain ⟨before, after, rfl⟩ := List.append_of_mem hfield
  refine ⟨before, after, rfl, fun other hother same => ?_⟩
  rw [List.map_append, List.map_cons, List.nodup_middle, List.nodup_cons] at nodup
  rw [← List.map_append] at nodup
  exact nodup.1 (List.mem_map.2 ⟨other, hother, same⟩)

end Json

theorem Demand.spells_encode (d : Demand) : d.Spells (encode d) := by
  cases d with
  | any => exact .any .text
  | forbidden => exact .forbidden .text
  | exactly edge => exact .exactly edge

theorem Directions.spells_encode (d : Directions) : d.Spells (encode d) := by
  cases d with
  | impossible => exact .impossible (Json.tells_self (by decide))
  | unrestricted => exact .unrestricted (Json.tells_self (by decide))
  | both right left => exact .both (Json.tells_self (by simp))
  | only side pairing => exact .only (Json.tells_self (by simp))

/-- **Values survive**: numbers of nodes and of edges, access, sides, preferences, demands and directions are read from
their spellings and from nothing else. What is written is read back, so that different values are written differently.
Whatever a value was read from, writing it, reading it and writing it again changes neither the value nor its form. -/
theorem coded_roundTrips : RoundTrips NodeId Ident.Spells ∧ RoundTrips EdgeId Ident.Spells ∧
    RoundTrips Access Access.Spells ∧ RoundTrips Side Side.Spells ∧ RoundTrips Preference Preference.Spells ∧
    RoundTrips Demand Demand.Spells ∧ RoundTrips Directions Directions.Spells := by
  refine ⟨.of_spells (fun _ _ => Ident.decode?_eq_some_iff) fun _ => rfl,
    .of_spells (fun _ _ => Ident.decode?_eq_some_iff) fun _ => rfl,
    .of_spells (fun _ _ => Access.decode?_eq_some_iff) fun _ => Json.tells_self (by simp),
    .of_spells (fun _ _ => Side.decode?_eq_some_iff) fun _ => .text,
    .of_spells (fun _ _ => Preference.decode?_eq_some_iff) fun _ => .text,
    .of_spells (fun _ _ => Demand.decode?_eq_some_iff) Demand.spells_encode,
    .of_spells (fun _ _ => Directions.decode?_eq_some_iff) Directions.spells_encode⟩

/-- Members of other names are passed over, and the order does not matter, but no field may come twice. -/
example :
    (decode? (.record [("note", .null), ("backward", .bool false), ("forward", .bool true)]) : Option Access) =
        some ⟨true, false⟩ ∧
      (decode? (.record [("forward", .bool true), ("backward", .bool false), ("forward", .bool true)]) : Option Access) =
        none := by
  decide

end Roadside
