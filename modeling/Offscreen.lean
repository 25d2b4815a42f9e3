import Offscreen.Main
import Offscreen.Proofs.Assignments
import Offscreen.Proofs.Attempts
import Offscreen.Proofs.ByteMap
import Offscreen.Proofs.CommandLine.Completeness
import Offscreen.Proofs.CommandLine.PassThrough
import Offscreen.Proofs.CommandLine.Precedence
import Offscreen.Proofs.CommandLine.Reader
import Offscreen.Proofs.CommandLine.Request
import Offscreen.Proofs.Digest
import Offscreen.Proofs.Directory
import Offscreen.Proofs.ExitStatus
import Offscreen.Proofs.Irrelevance
import Offscreen.Proofs.Kinds
import Offscreen.Proofs.Launches
import Offscreen.Proofs.Lookup
import Offscreen.Proofs.Obstacle
import Offscreen.Proofs.Overrides
import Offscreen.Proofs.Parent
import Offscreen.Proofs.Path
import Offscreen.Proofs.Preview
import Offscreen.Proofs.Reftest
import Offscreen.Proofs.Rendering
import Offscreen.Proofs.Run
import Offscreen.Proofs.SearchPath
import Offscreen.Proofs.Selection
import Offscreen.Proofs.Session
import Offscreen.Proofs.Steps
import Offscreen.Proofs.Support
import Offscreen.Proofs.Walk
import Offscreen.Proofs.WorkingDirectory
import Offscreen.Proofs.Settings
import Offscreen.Proofs.Overlay
import Offscreen.Proofs.IllFormed
import Offscreen.Proofs.Legible
import Offscreen.Proofs.Verbosity
import Offscreen.Proofs.Features
import Offscreen.Proofs.Description
import Offscreen.Proofs.Quoted
import Offscreen.Proofs.Latest
import Offscreen.Proofs.Digest.Content
