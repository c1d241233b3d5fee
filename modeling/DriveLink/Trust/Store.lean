import DriveLink.Failure
import DriveLink.Trust.Certificate
import DriveLink.Trust.Pem

/-! # Trust from a file

The certificates to be trusted come from a text file. All of them must be certificates, and there
must be one.

* `trustFromFile` — whom the certificates in a file make trusted. -/

namespace DriveLink

/-- Whom certificates make trusted, for the first reason why one does not. -/
def trustAll : List Bytes → Except CertificateFault (List TrustAnchor)
  | [] => .ok []
  | certificate :: rest =>
    match TrustAnchor.ofCertificate certificate with
    | .error e => .error e
    | .ok anchor => (trustAll rest).map (anchor :: ·)

/-- **Whom the certificates in a file make trusted**, given its name and what came of reading it. -/
def trustFromFile (name : String) (content : Except IoError Bytes) :
    Except Failure (List TrustAnchor) :=
  match content with
  | .error e => .error (.tls ("failed to open certificate file " ++ name ++ ": " ++ e.message))
  | .ok text =>
    match Pem.certificates text with
    | [] => .error (.tls ("no certificates found in " ++ name))
    | certificates =>
      match trustAll certificates with
      | .ok anchors => .ok anchors
      | .error fault => .error (.tls fault.message)

end DriveLink
