import MultiCluster.Flow
import MultiCluster.Page
import MultiCluster.Service.Observe

/-! Listing the members, page by page, with what is seen of them now. -/
namespace MultiCluster.Service

/-- One page of the members. At most `limit` of them are looked at side by side. Fails only if the
registry cannot be read. -/
def listing (limit : Nat) (request : PageRequest) :
    Flow Summary (Except Error (Page Summary)) :=
  .ask (.registry .list) fun
    | .error e => .done (.error e)
    | .ok members =>
      .pool .inOrder (max limit 1) ((request.slice members).map inspect) fun summaries =>
        .done (.ok ⟨summaries, members.length, request⟩)

end MultiCluster.Service
