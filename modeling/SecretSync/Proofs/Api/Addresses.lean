import SecretSync.Api.Secrets
import SecretSync.Api.Server
import SecretSync.Proofs.Text.Segments
import SecretSync.Validation

/-!
# `SecretSync.Proofs.Api.Addresses`: names as parts of addresses

Namespaces and names become part of an address as they are. Those that follow
RFC 1123 pass through unchanged: the address can be built (`build_collection`,
`build_member`), and the server finds the namespace and the name in it that
the client has put there (`place?_collection`, `place?_member`).
-/

set_option autoImplicit false

namespace SecretSync

open Text (joinWith)

/-! ### Characters of names -/

/-- A text that follows RFC 1123: labels with dots between them. -/
def Rfc1123 (s : String) : Prop := Validation.isSubdomain s.toList = true

instance (s : String) : Decidable (Rfc1123 s) :=
  inferInstanceAs (Decidable (Validation.isSubdomain s.toList = true))

/-- The characters that a path holds as they are. -/
def Http.InPath (c : Char) : Prop := c ≠ '#' ∧ c ≠ '?' ∧ isAllowed forbiddenInPath c = true

instance (c : Char) : Decidable (Http.InPath c) :=
  inferInstanceAs (Decidable (c ≠ '#' ∧ c ≠ '?' ∧ Http.isAllowed Http.forbiddenInPath c = true))

/-- A text that stands between two slashes of a path as it is. -/
def Http.Piece (s : String) : Prop := ∀ c ∈ s.toList, InPath c ∧ c ≠ '/'

instance (s : String) : Decidable (Http.Piece s) :=
  List.decidableBAll (fun c => Http.InPath c ∧ c ≠ '/') s.toList

/-- A name has letters, digits, hyphens and dots. -/
theorem Rfc1123.isLabelChar {s : String} (h : Rfc1123 s) {c : Char} (hc : c ∈ s.toList) :
    c = '.' ∨ Validation.isLabelChar c = true := by
  rw [← Text.joinWith_segments '.' s.toList] at hc
  refine (Text.mem_joinWith hc).imp id fun ⟨piece, hpiece, hc⟩ => ?_
  have hlabel := List.all_eq_true.1 h piece hpiece
  unfold Validation.isLabel at hlabel
  simp only [Bool.and_eq_true] at hlabel
  exact List.all_eq_true.1 hlabel.1.1 c hc

/-- The characters of names are not control characters. -/
theorem space_le_of_isLabelChar {c : Char} (h : Validation.isLabelChar c = true) :
    0x20 ≤ c.toNat := by
  have hle : ∀ d : Char, d ≤ c → 0x20 ≤ d.toNat → 0x20 ≤ c.toNat := by
    intro d hd hspace
    exact Nat.le_trans hspace (UInt32.le_iff_toNat_le.1 hd)
  unfold Validation.isLabelChar Validation.isLabelEnd at h
  simp only [Bool.or_eq_true, Bool.and_eq_true, decide_eq_true_eq, beq_iff_eq] at h
  rcases h with (⟨hletter, -⟩ | ⟨hdigit, -⟩) | rfl
  · exact hle 'a' hletter (by decide)
  · exact hle '0' hdigit (by decide)
  · decide

/-- A name can stand in a path. -/
theorem Rfc1123.piece {s : String} (h : Rfc1123 s) : Http.Piece s := by
  intro c hc
  rcases h.isLabelChar hc with rfl | hlabel
  · exact ⟨⟨by decide, by decide, by decide⟩, by decide⟩
  · have hne : ∀ d : Char, Validation.isLabelChar d = false → c ≠ d := by
      rintro d hd rfl
      rw [hlabel] at hd
      cases hd
    have hforbidden : ∀ d ∈ Http.forbiddenInPath, (!Validation.isLabelChar d) = true :=
      List.all_eq_true.1 (by decide)
    refine ⟨⟨hne _ (by decide), hne _ (by decide), ?_⟩, hne _ (by decide)⟩
    unfold Http.isAllowed
    rw [Bool.and_eq_true, decide_eq_true_eq, Bool.not_eq_true', List.contains_eq_mem,
      decide_eq_false_iff_not]
    refine ⟨space_le_of_isLabelChar hlabel, fun hmem => ?_⟩
    have hnot := hforbidden c hmem
    rw [hlabel] at hnot
    cases hnot

/-- A name is not empty. -/
theorem Rfc1123.ne_empty {s : String} (h : Rfc1123 s) : s ≠ "" := by
  rintro rfl
  cases h

/-! ### Addresses -/

/-- A path without a question mark or a number sign is read as it is. -/
theorem Http.readAddress_path {path : String} (h : ∀ c ∈ path.toList, Http.InPath c) :
    readAddress (path ++ "?") = some (path, []) := by
  have hnumber : (path ++ "?").toList.takeWhile (· != '#') = path.toList ++ ['?'] := by
    rw [String.toList_append,
      List.takeWhile_append_of_pos fun c hc => by simpa using (h c hc).1]
    rfl
  have hpath : (path.toList ++ ['?']).takeWhile (· != '?') = path.toList := by
    rw [List.takeWhile_append_of_pos fun c hc => by simpa using (h c hc).2.1]
    exact List.append_nil _
  have hquery : (path.toList ++ ['?']).dropWhile (· != '?') = ['?'] := by
    rw [List.dropWhile_append_of_pos fun c hc => by simpa using (h c hc).2.1]
    rfl
  have hallowed : path.toList.all (isAllowed forbiddenInPath) = true :=
    List.all_eq_true.2 fun c hc => (h c hc).2.2
  unfold readAddress
  simp only [hnumber, hpath, hquery, hallowed, String.ofList_toList]
  rfl

/-- A request for such a path has it as its path. -/
theorem HttpRequest.build_path {path : String} (h : ∀ c ∈ path.toList, Http.InPath c)
    (method : HttpMethod) (parameters : List (String × String)) (body : Option Json) :
    HttpRequest.build method path parameters body
      = .ok { method := method, path := path, query := parameters, body := body } := by
  have hnumber : path.toList.contains '#' = false := by
    rw [List.contains_eq_mem, decide_eq_false_iff_not]
    exact fun hmem => (h _ hmem).1 rfl
  unfold HttpRequest.build
  rw [Http.readAddress_path h]
  simp only [hnumber, List.nil_append]
  rfl

/-! ### Pieces of a path -/

section
variable {path : String} {pieces : List String}

/-- A path of pieces is split into them again. -/
theorem Http.splitAll_joined (hpath : path.toList = joinWith '/' (pieces.map String.toList))
    (hne : pieces ≠ []) (hpieces : ∀ piece ∈ pieces, Piece piece) :
    Text.splitAll '/' path = pieces :=
  Text.splitAll_joined hpath hne fun piece hpiece hmem => (hpieces piece hpiece _ hmem).2 rfl

/-- A request for a path of pieces has it as its path. -/
theorem HttpRequest.build_joined (hpath : path.toList = joinWith '/' (pieces.map String.toList))
    (hpieces : ∀ piece ∈ pieces, Http.Piece piece) (method : HttpMethod)
    (parameters : List (String × String)) (body : Option Json) :
    HttpRequest.build method path parameters body
      = .ok { method := method, path := path, query := parameters, body := body } := by
  refine build_path (fun c hc => ?_) method parameters body
  rw [hpath] at hc
  rcases Text.mem_joinWith hc with rfl | ⟨piece, hpiece, hc⟩
  · decide
  · obtain ⟨text, htext, rfl⟩ := List.mem_map.1 hpiece
    exact (hpieces text htext c hc).1

end

/-! ### The secrets of a namespace -/

namespace SecretApi

variable {ns name : String}

/-- The pieces of the path of the secrets of a namespace. -/
def collectionPieces (ns : String) : List String :=
  ["", "api", "v1", "namespaces", ns, "secrets"]

theorem toList_collection (ns : String) :
    (collection ns).toList = joinWith '/' ((collectionPieces ns).map String.toList) := by
  unfold collection
  rw [String.toList_append, String.toList_append]
  rfl

theorem piece_collectionPieces (hns : Rfc1123 ns) :
    ∀ piece ∈ collectionPieces ns, Http.Piece piece := by
  simp only [collectionPieces, List.forall_mem_cons]
  exact ⟨by decide, by decide, by decide, by decide, hns.piece, by decide, List.forall_mem_nil _⟩

/-- The request for the secrets of a namespace can be built. -/
theorem build_collection (hns : Rfc1123 ns) (method : HttpMethod)
    (parameters : List (String × String)) (body : Option Json) :
    HttpRequest.build method (collection ns) parameters body
      = .ok { method := method, path := collection ns, query := parameters, body := body } :=
  HttpRequest.build_joined (toList_collection ns) (piece_collectionPieces hns) method parameters body

/-- The server finds the namespace in this path. -/
theorem place?_collection (hns : Rfc1123 ns) :
    ApiServer.place? (collection ns) = some (.secrets ns) := by
  unfold ApiServer.place?
  rw [Http.splitAll_joined (toList_collection ns) nofun (piece_collectionPieces hns)]
  rfl

/-! ### A secret -/

/-- The pieces of the path of a secret. -/
def memberPieces (ns name : String) : List String :=
  ["", "api", "v1", "namespaces", ns, "secrets", name]

theorem toList_member (ns name : String) :
    (member ns name).toList = joinWith '/' ((memberPieces ns name).map String.toList) := by
  unfold member
  rw [String.toList_append, String.toList_append, toList_collection]
  simp [collectionPieces, memberPieces, joinWith]

theorem piece_memberPieces (hns : Rfc1123 ns) (hname : Rfc1123 name) :
    ∀ piece ∈ memberPieces ns name, Http.Piece piece := by
  simp only [memberPieces, List.forall_mem_cons]
  exact ⟨by decide, by decide, by decide, by decide, hns.piece, by decide, hname.piece,
    List.forall_mem_nil _⟩

/-- The request for a secret can be built. -/
theorem build_member (hns : Rfc1123 ns) (hname : Rfc1123 name) (method : HttpMethod)
    (parameters : List (String × String)) (body : Option Json) :
    HttpRequest.build method (member ns name) parameters body
      = .ok { method := method, path := member ns name, query := parameters, body := body } :=
  HttpRequest.build_joined (toList_member ns name) (piece_memberPieces hns hname) method parameters
    body

/-- The server finds namespace and name in this path. -/
theorem place?_member (hns : Rfc1123 ns) (hname : Rfc1123 name) :
    ApiServer.place? (member ns name) = some (.secret ns name) := by
  unfold ApiServer.place?
  rw [Http.splitAll_joined (toList_member ns name) nofun (piece_memberPieces hns hname)]
  rfl

end SecretApi

end SecretSync
