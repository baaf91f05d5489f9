import GraphicsBuffers.Proofs.HandleLifetime
import GraphicsBuffers.Proofs.DeviceLifetime
import GraphicsBuffers.Proofs.Selection
import GraphicsBuffers.Proofs.Enumeration
import GraphicsBuffers.Proofs.Tokens
import GraphicsBuffers.Proofs.RoundTrip
import GraphicsBuffers.Proofs.Planning
import GraphicsBuffers.Proofs.Samples
import GraphicsBuffers.Proofs.Mapping
import GraphicsBuffers.Proofs.Extent
import GraphicsBuffers.Proofs.Pitch
import GraphicsBuffers.Proofs.Request
import GraphicsBuffers.Proofs.Retry
import GraphicsBuffers.Proofs.Provenance
import GraphicsBuffers.Proofs.Geometry
import GraphicsBuffers.Proofs.Shape
import GraphicsBuffers.Proofs.Validation
import GraphicsBuffers.Proofs.Tiling
import GraphicsBuffers.Proofs.Registration
import GraphicsBuffers.Proofs.Query
import GraphicsBuffers.Proofs.Rounding
import GraphicsBuffers.Proofs.Spelling
import GraphicsBuffers.Proofs.Representation
import GraphicsBuffers.Proofs.Mappability
import GraphicsBuffers.Proofs.Atomicity
import GraphicsBuffers.Proofs.Negative
import GraphicsBuffers.Proofs.Status
