import Patchbay.Main
import Patchbay.Proofs.Dispatch.Calls
import Patchbay.Proofs.Dispatch.Reload
import Patchbay.Proofs.Rules.Render
import Patchbay.Proofs.Stop.Exit
import Patchbay.Proofs.Rules.Grammar
import Patchbay.Proofs.Rules.Share
import Patchbay.Proofs.Rules.Sources
import Patchbay.Proofs.Rules.Compiled
import Patchbay.Proofs.Journal
import Patchbay.Proofs.Verbosity
import Patchbay.Proofs.Osc.RoundTrip
import Patchbay.Proofs.Osc.Decoded
import Patchbay.Proofs.Dispatch.Forwarded
import Patchbay.Proofs.Dispatch.Books
import Patchbay.Proofs.Load.Clients
import Patchbay.Proofs.Load.Routing
import Patchbay.Proofs.Load.Reloads
import Patchbay.Proofs.Load.Start
import Patchbay.Proofs.Load.Serving
import Patchbay.Proofs.Serve.Steps
import Patchbay.Proofs.Serve.Stops
import Patchbay.Proofs.Serve.History
import Patchbay.Proofs.Serve.Requests
import Patchbay.Proofs.Serve.Present
import Patchbay.Proofs.Listen.Loop
import Patchbay.Proofs.Listen.Echo
import Patchbay.Proofs.Stop.Operations
import Patchbay.Proofs.Stop.Ledger
import Patchbay.Proofs.Rules.Numbers
import Patchbay.Proofs.Rules.Tokens
import Patchbay.Proofs.Rules.Sameness
import Patchbay.Proofs.Dispatch.Hops
import Patchbay.Proofs.Dispatch.Places
import Patchbay.Proofs.Settings.Ports
import Patchbay.Proofs.Settings.Problems
