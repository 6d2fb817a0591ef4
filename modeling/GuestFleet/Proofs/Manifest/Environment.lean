import GuestFleet.Manifest.CloudConfig
import GuestFleet.Proofs.Cluster.Valid
import GuestFleet.Proofs.Yaml.Distinct

/-!
# Environments of nodes

The config map of a node says which customer the cluster belongs to, although the customer's id may
hold any characters, line breaks and names of other entries included. What tells the customer is
that the domain stands twice in the environment, and that the customer's id is short.
-/

namespace GuestFleet

open Kube.SelectorTerm (IsPlain)

/-! ## Texts around a part that stands twice -/

/-- The character never stands right after a line break. -/
def NoLineStarts (c : Char) (text : List Char) : Prop :=
  ∀ i, text[i]? = some '\n' -> text[i + 1]? ≠ some c

/-- The part is found in the whole from the place on. -/
def Occurs (part whole : List Char) (place : Nat) : Prop :=
  ∀ i < part.length, whole[place + i]? = part[i]?

/-- A part is found behind what stands before it. -/
theorem occurs_between {part whole : List Char} {place : Nat} (before after : List Char)
    (isWhole : whole = before ++ (part ++ after)) (isPlace : place = before.length) :
    Occurs part whole place := by
  subst isWhole isPlace
  intro i within
  rw [List.getElem?_append_right (Nat.le_add_right _ _), Nat.add_sub_cancel_left,
    List.getElem?_append_left within]

/-- A line with its break has no second break in it. -/
theorem break_first {rest : List Char} (single : '\n' ∉ rest) (i : Nat) :
    ('\n' :: rest)[i + 1]? ≠ some '\n' := by
  intro found
  rw [List.getElem?_cons_succ] at found
  exact single (List.mem_of_getElem? found)

namespace Occurs

variable {part first rest line whole : List Char} {mark : Char} {place other k : Nat}

/-- A line with its break does not overlap with itself. -/
theorem apart (single : '\n' ∉ rest) (one : Occurs ('\n' :: rest) whole place)
    (again : Occurs ('\n' :: rest) whole (place + k)) (later : 0 < k) : rest.length < k := by
  by_contra near
  obtain ⟨k, rfl⟩ := Nat.exists_eq_succ_of_ne_zero later.ne'
  refine break_first single k ?_
  rw [← one (k + 1) (Nat.lt_succ_of_le (Nat.le_of_not_lt near))]
  exact again 0 (Nat.succ_pos _)

/-- What stands within the second copy of a text stands within the first one, too. -/
theorem copied {text : List Char} {first second i : Nat} (one : Occurs text whole first)
    (copy : Occurs text whole second) (occurs : Occurs part whole (second + i))
    (inside : i + part.length ≤ text.length) : Occurs part whole (first + i) := by
  intro j within
  have here := occurs j within
  rw [Nat.add_assoc, copy (i + j) (by omega)] at here
  rw [Nat.add_assoc, one (i + j) (by omega), here]

/-- A text without such a line and the line cannot overlap. -/
theorem clash (headed : first[0]? = some '\n') (unlike : NoLineStarts mark first)
    (single : '\n' ∉ mark :: line) (one : Occurs first whole place)
    (occurs : Occurs ('\n' :: mark :: line) whole other)
    (starts : place < other + (line.length + 2)) (ends : other + 1 < place + first.length) :
    False := by
  have positive : 0 < first.length := (List.getElem?_eq_some_iff.1 headed).1
  by_cases before : place ≤ other
  · obtain ⟨j, rfl⟩ := Nat.exists_eq_add_of_le before
    have isBreak := occurs 0 (Nat.succ_pos _)
    have isMark := occurs 1 (Nat.succ_lt_succ (Nat.succ_pos _))
    rw [Nat.add_zero, one j (by omega)] at isBreak
    rw [Nat.add_assoc, one (j + 1) (by omega)] at isMark
    exact unlike j isBreak isMark
  · obtain ⟨j, rfl⟩ := Nat.exists_eq_add_of_lt (Nat.lt_of_not_le before)
    refine break_first single j ?_
    rw [← occurs (j + 1) (Nat.lt_of_add_lt_add_left starts), ← headed]
    exact one 0 positive

end Occurs

/-- Where a text stands once before and once after a line that `first` has no like of, what stands
before `first` is known, unless it is more than twice as long. -/
theorem start_unique {first line : List Char} {mark : Char} (headed : first[0]? = some '\n')
    (unlike : NoLineStarts mark first) (single : '\n' ∉ mark :: line) {a b s t : List Char}
    (short : b.length < 2 * first.length) (less : a.length < b.length)
    (same : a ++ (first ++ (s ++ ('\n' :: mark :: line ++ s))) =
      b ++ (first ++ (t ++ ('\n' :: mark :: line ++ t)))) : False := by
  have lengths := congrArg List.length same
  simp only [List.length_append, List.length_cons] at lengths
  obtain ⟨k, isK⟩ : ∃ k, s.length = t.length + k := ⟨s.length - t.length, by omega⟩
  obtain ⟨whole, isWhole⟩ : ∃ whole, whole =
    a ++ (first ++ (s ++ ('\n' :: mark :: line ++ s))) := ⟨_, rfl⟩
  have isOther := isWhole.trans same
  -- The line stands near the end on both sides, `k` places later on the right one.
  have left : Occurs ('\n' :: mark :: line) whole (a.length + first.length + s.length) :=
    occurs_between (a ++ first ++ s) s (by simp only [isWhole, List.append_assoc])
      (by simp only [List.length_append])
  have right : Occurs ('\n' :: mark :: line) whole (a.length + first.length + s.length + k) :=
    occurs_between (b ++ first ++ t) t (by simp only [isOther, List.append_assoc])
      (by simp only [List.length_append]; omega)
  have later : line.length + 1 < k := Occurs.apart single left right (by omega)
  -- So it is a part of `s`, and stands on the left a second time, right before it ends.
  obtain ⟨i, rfl⟩ : ∃ i, k = line.length + 2 + i := Nat.exists_eq_add_of_le later
  have one : Occurs s whole (a.length + first.length) :=
    occurs_between (a ++ first) _ (isWhole.trans (List.append_assoc _ _ _).symm)
      (List.length_append).symm
  have copy : Occurs s whole (a.length + first.length + s.length + (line.length + 2)) :=
    occurs_between (a ++ first ++ s ++ ('\n' :: mark :: line)) []
      (by simp only [isWhole, List.append_assoc, List.append_nil])
      (by simp only [List.length_append, List.length_cons])
  rw [← Nat.add_assoc] at right
  have again := Occurs.copied one copy right (by simp only [List.length_cons]; omega)
  -- There it meets `first` as it stands on the right.
  have middle : Occurs first whole b.length := occurs_between b _ isOther rfl
  exact Occurs.clash headed unlike single middle again (by omega) (by omega)

/-- Short texts before such a repetition are told by the whole. -/
theorem start_eq {first line : List Char} {mark : Char} (headed : first[0]? = some '\n')
    (unlike : NoLineStarts mark first) (single : '\n' ∉ mark :: line) {a b s t : List Char}
    (short : a.length < 2 * first.length) (shortOther : b.length < 2 * first.length)
    (same : a ++ (first ++ (s ++ ('\n' :: mark :: line ++ s))) =
      b ++ (first ++ (t ++ ('\n' :: mark :: line ++ t)))) : a = b := by
  rcases Nat.lt_trichotomy a.length b.length with less | equal | more
  · exact (start_unique headed unlike single shortOther less same).elim
  · exact (List.append_inj same equal).1
  · exact (start_unique headed unlike single short more same.symm).elim

/-- A character in front of a text adds no line that starts with the mark, if the text does not. -/
theorem noLineStarts_cons {mark c : Char} {text : List Char} (starts : text[0]? ≠ some mark)
    (unlike : NoLineStarts mark text) : NoLineStarts mark (c :: text) := by
  intro i isBreak
  cases i with
  | zero => exact starts
  | succ i => exact unlike i isBreak

/-- Nor does the rest of a line. -/
theorem noLineStarts_append {mark : Char} {line text : List Char} (inLine : '\n' ∉ line)
    (unlike : NoLineStarts mark text) : NoLineStarts mark (line ++ text) := by
  induction line with
  | nil => exact unlike
  | cons c rest ih =>
    have tail := ih (List.not_mem_of_not_mem_cons inLine)
    intro i isBreak
    cases i with
    | zero =>
      have isC : c = '\n' := Option.some.inj isBreak
      exact absurd isC.symm (List.ne_of_not_mem_cons inLine)
    | succ i => exact tail i isBreak

/-! ## Environments -/

namespace Blueprint

/-- What stands in an entry before its value. -/
def entryStart (name : String) : List Char := name.toList ++ ['=']

/-- An entry as characters. -/
def entryChars (entry : String × String) : List Char :=
  entryStart entry.1 ++ (entry.2.toList ++ ['\n'])

/-- An environment as a text consists of its entries one after the other. -/
theorem toList_environmentText (entries : List (String × String)) :
    (environmentText entries).toList = entries.flatMap entryChars := by
  rw [environmentText, String.toList_join, List.flatMap_map]
  refine congrArg (List.flatMap · entries) (funext fun entry => ?_)
  rw [String.toList_append, String.toList_append, String.toList_append, List.append_assoc]
  rfl

variable (b : Blueprint) (role : Role) (node : Node)

/-- What stands in an environment before the customer. -/
def beforeCustomer : List Char :=
  entryChars ("CLUSTER_ID", b.cluster.id) ++ entryStart "CUSTOMER_ID"

/-- What stands in an environment between the customer and the domain. -/
def afterCustomer : List Char :=
  '\n' :: (entryStart "NODE_ID" ++ (node.id.toList ++ '\n' :: (entryStart "ROLE" ++
    (role.name.toList ++ '\n' :: (entryStart "API_DOMAIN" ++
      (b.cluster.apiDomain "").toList)))))

/-- The line in an environment between the domain and itself, after its mark. -/
def etcdLine : List Char := entryStart "TCD_DOMAIN" ++ (b.cluster.etcdDomain "").toList

/-- The domain stands at the end of the address of the API. -/
theorem toList_apiDomain (domain : String) : (b.cluster.apiDomain domain).toList =
    (b.cluster.apiDomain "").toList ++ domain.toList := by
  rw [← String.toList_append, Cluster.apiDomain, Cluster.apiDomain, String.append_empty]

/-- The domain stands at the end of the address of etcd. -/
theorem toList_etcdDomain (domain : String) : (b.cluster.etcdDomain domain).toList =
    (b.cluster.etcdDomain "").toList ++ domain.toList := by
  rw [← String.toList_append, Cluster.etcdDomain, Cluster.etcdDomain, String.append_empty]

/-- The customer and, twice, the domain are what an environment holds besides fixed texts and ids.
-/
theorem toList_environment :
    (environmentText (b.environment role node)).toList =
      b.beforeCustomer ++ (b.cluster.topology.customerId.toList ++ (b.afterCustomer role node ++
        (b.ingressDomain.toList ++ ('\n' :: 'E' :: b.etcdLine ++ b.ingressDomain.toList)))) ++
          ['\n'] := by
  have isEtcd : entryStart "ETCD_DOMAIN" = 'E' :: entryStart "TCD_DOMAIN" := by decide
  simp only [toList_environmentText, environment, List.flatMap_cons, List.flatMap_nil, entryChars,
    beforeCustomer, afterCustomer, etcdLine, apiDomain, etcdDomain,
    b.toList_apiDomain b.ingressDomain, b.toList_etcdDomain b.ingressDomain, isEtcd,
    List.append_assoc, List.cons_append, List.nil_append, List.append_nil]

variable {b role node}

/-- There is no line break in a text without marks. -/
theorem break_notMem {text : List Char} (plain : ∀ c ∈ text, IsPlain c) : '\n' ∉ text :=
  fun mem => absurd (plain _ mem) (by decide)

/-- There is no line break in an address without its domain. -/
theorem break_notMem_domain {start id : String} (plainStart : '\n' ∉ start.toList)
    (plain : ∀ c ∈ id.toList, IsPlain c) : '\n' ∉ (start ++ id ++ "." ++ "").toList := by
  have point : '\n' ∉ ".".toList := by decide
  rw [String.append_empty, String.toList_append, String.toList_append, List.append_assoc,
    List.mem_append, List.mem_append]
  rintro (mem | mem | mem)
  · exact plainStart mem
  · exact break_notMem plain mem
  · exact point mem

/-- No line between the customer and the domain is like the one between the domain and itself. -/
theorem noLineStarts_afterCustomer (plainId : ∀ c ∈ b.cluster.id.toList, IsPlain c)
    (plain : ∀ c ∈ node.id.toList, IsPlain c) : NoLineStarts 'E' (b.afterCustomer role node) := by
  have entry {name : String} {text : List Char} (inName : '\n' ∉ entryStart name)
      (starts : (entryStart name)[0]? ≠ some 'E') (unlike : NoLineStarts 'E' text) :
      NoLineStarts 'E' ('\n' :: (entryStart name ++ text)) := by
    have marked : 0 < (entryStart name).length := by
      rw [entryStart, List.length_append]
      exact Nat.lt_add_left _ (by decide)
    refine noLineStarts_cons ?_ (noLineStarts_append inName unlike)
    rwa [List.getElem?_append_left marked]
  have ends : NoLineStarts 'E' (b.cluster.apiDomain "").toList := by
    have domain : '\n' ∉ (b.cluster.apiDomain "").toList :=
      break_notMem_domain (by decide) plainId
    have nothing : NoLineStarts 'E' [] := fun _ isBreak => by cases isBreak
    have whole := noLineStarts_append domain nothing
    rwa [List.append_nil] at whole
  have inRole : '\n' ∉ role.name.toList := by
    cases role <;> decide
  refine entry (by decide) (by decide) (noLineStarts_append (break_notMem plain) ?_)
  refine entry (by decide) (by decide) (noLineStarts_append inRole ?_)
  exact entry (by decide) (by decide) ends

/-- Enough stands between the customer and the domain for a short customer not to reach over it. -/
theorem length_afterCustomer : 32 ≤ (b.afterCustomer role node).length := by
  have nodes : (entryStart "NODE_ID").length = 8 := by decide
  have roles : (entryStart "ROLE").length = 5 := by decide
  have apis : (entryStart "API_DOMAIN").length = 11 := by decide
  have start : "api.".toList.length = 4 := by decide
  have names : role.name.toList.length = 6 := by cases role <;> decide
  simp only [afterCustomer, Cluster.apiDomain, String.toList_append, List.length_cons,
    List.length_append, nodes, roles, apis, start, names]
  omega

/-- The customer of a cluster is told by the environment of each of its nodes. -/
theorem customer_of_environment {first second : Blueprint}
    (validFirst : first.cluster.isValid = true) (valid : second.cluster.isValid = true)
    (sameId : first.cluster.id = second.cluster.id) {role : Role} {node other : Node}
    (mem : (role, other) ∈ second.cluster.nodes) (sameNode : node.id = other.id)
    (same : environmentText (first.environment role node) =
      environmentText (second.environment role other)) :
    first.cluster.topology.customerId = second.cluster.topology.customerId := by
  have before : first.beforeCustomer = second.beforeCustomer := by
    rw [beforeCustomer, beforeCustomer, sameId]
  have after : first.afterCustomer role node = second.afterCustomer role other := by
    rw [afterCustomer, afterCustomer, Cluster.apiDomain, Cluster.apiDomain, sameId, sameNode]
  have line : first.etcdLine = second.etcdLine := by
    rw [etcdLine, etcdLine, Cluster.etcdDomain, Cluster.etcdDomain, sameId]
  have texts := congrArg String.toList same
  rw [toList_environment, toList_environment, before, after, line] at texts
  have parts := List.append_cancel_left (List.append_cancel_right texts)
  have long : 32 ≤ (second.afterCustomer role other).length := length_afterCustomer
  have short {b : Blueprint} (valid : b.cluster.isValid = true) :
      b.cluster.topology.customerId.toList.length <
        2 * (second.afterCustomer role other).length := by
    have bound := Cluster.customer_of_valid valid
    rw [← String.length_toList] at bound
    omega
  have plainId := (Cluster.id_of_valid valid).1
  refine String.toList_inj.1 (start_eq rfl
    (noLineStarts_afterCustomer plainId (Cluster.node_of_valid valid mem)) ?_
    (short validFirst) (short valid) parts)
  rw [etcdLine, entryStart, Cluster.etcdDomain, List.mem_cons, List.mem_append]
  rintro (isMark | mem | mem)
  · exact absurd isMark (by decide)
  · exact absurd mem (by decide)
  · have domain : '\n' ∉ (second.cluster.etcdDomain "").toList :=
      break_notMem_domain (by decide) plainId
    exact domain mem

/-- The config map of a node tells its environment. -/
theorem environment_of_configData {first second : Blueprint}
    (sameId : first.cluster.id = second.cluster.id) {role : Role} {node other : Node}
    (sameNode : node.id = other.id)
    (same : first.configData role node = second.configData role other) :
    environmentText (first.environment role node) =
      environmentText (second.environment role other) := by
  have texts : first.cloudConfig role node = second.cloudConfig role other :=
    congrArg Prod.snd (List.cons.inj same).1
  have documents := List.append_cancel_left
    ((String.toList_append.symm.trans (congrArg String.toList texts)).trans String.toList_append)
  simp only [Yaml.document, String.toList_ofList, cloudConfigEntries, environmentFile, sameId,
    sameNode, Yaml.Node.members, Yaml.Node.value, Yaml.Node.lines, Yaml.Node.inList,
    List.append_cancel_left_eq, List.append_cancel_right_eq, List.cons.injEq, true_and] at documents
  rw [toList_environment, toList_environment] at documents
  refine String.toList_inj.1 ?_
  rw [toList_environment, toList_environment, Yaml.endLine_scalar_inj documents]

end Blueprint

end GuestFleet
