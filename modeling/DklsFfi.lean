import DklsFfi.Rust
import DklsFfi.Engine
import DklsFfi.Lib
import DklsFfi.Message
import DklsFfi.Keyshare
import DklsFfi.Keygen.Session
import DklsFfi.Keygen.Steps
import DklsFfi.Keygen.Refinement
import DklsFfi.Keygen.Protocol
import DklsFfi.Keygen.Commitments
import DklsFfi.Sign.Session
import DklsFfi.Sign.Steps
import DklsFfi.Sign.Refinement
import DklsFfi.Sign.Protocol
import DklsFfi.Session.Rounds
import DklsFfi.Session.Rejections
import DklsFfi.Session.Seeds
import DklsFfi.Session.ErrorCodes
import DklsFfi.Session.Handles
import DklsFfi.Session.Panics
import DklsFfi.Session.Status
import DklsFfi.Session.Routing
import DklsFfi.Session.System
import DklsFfi.Session.Completion
import DklsFfi.Session.Refinement
import DklsFfi.Session.Reproducible
import DklsFfi.Session.Progress
