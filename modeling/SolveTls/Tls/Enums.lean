import SolveTls.Base.Dict

/-! The registered names of the values in a ClientHello that the report explains. -/

namespace SolveTls

/-- The protocol versions. -/
def tlsVersionNames : Dict Nat String := [
  (0x0300, "SSL_3_0"), (0x0301, "TLS_1_0"), (0x0302, "TLS_1_1"), (0x0303, "TLS_1_2"),
  (0x0304, "TLS_1_3")]

/-- The groups of a key exchange. -/
def namedGroupNames : Dict Nat String := [
  (1, "SECT163K1"), (2, "SECT163R1"), (3, "SECT163R2"), (4, "SECT193R1"), (5, "SECT193R2"),
  (6, "SECT233K1"), (7, "SECT233R1"), (8, "SECT239K1"), (9, "SECT283K1"), (10, "SECT283R1"),
  (11, "SECT409K1"), (12, "SECT409R1"), (13, "SECT571K1"), (14, "SECT571R1"), (15, "SECP160K1"),
  (16, "SECP160R1"), (17, "SECP160R2"), (18, "SECP192K1"), (19, "SECP192R1"), (20, "SECP224K1"),
  (21, "SECP224R1"), (22, "SECP256K1"), (23, "SECP256R1"), (24, "SECP384R1"), (25, "SECP521R1"),
  (26, "BRAINPOOLP256R1"), (27, "BRAINPOOLP384R1"), (28, "BRAINPOOLP512R1"), (29, "X25519"),
  (30, "X448"), (31, "BRAINPOOLP256R1TLS13"), (32, "BRAINPOOLP384R1TLS13"),
  (33, "BRAINPOOLP512R1TLS13"), (34, "GC256A"), (35, "GC256B"), (36, "GC256C"), (37, "GC256D"),
  (38, "GC512A"), (39, "GC512B"), (40, "GC512C"), (41, "CURVESM2"), (0x0100, "FFDHE2048"),
  (0x0101, "FFDHE3072"), (0x0102, "FFDHE4096"), (0x0103, "FFDHE6144"), (0x0104, "FFDHE8192"),
  (0x0200, "MLKEM512"), (0x0201, "MLKEM768"), (0x0202, "MLKEM1024"),
  (0x11eb, "SECP256R1MLKEM768"), (0x11ec, "X25519MLKEM768"), (0x11ed, "SECP384R1MLKEM1024"),
  (0x6399, "X25519KYBER768DRAFT00"), (0xff01, "ARBITRARY_EXPLICIT_PRIME_CURVES"),
  (0xff02, "ARBITRARY_EXPLICIT_CHAR2_CURVES")]

/-- The signature schemes. -/
def signatureSchemeNames : Dict Nat String := [
  (0x0101, "RSA_PKCS1_MD5"), (0x0102, "DSA_MD5"), (0x0103, "ECDSA_MD5"),
  (0x0201, "RSA_PKCS1_SHA1"), (0x0202, "DSA_SHA1"), (0x0203, "ECDSA_SHA1"),
  (0x0301, "RSA_PKCS1_SHA224"), (0x0302, "DSA_SHA224"), (0x0303, "ECDSA_SHA224"),
  (0x0402, "DSA_SHA256"), (0x0502, "DSA_SHA384"), (0x0602, "DSA_SHA512"),
  (0x0401, "RSA_PKCS1_SHA256"), (0x0403, "ECDSA_SECP256R1_SHA256"), (0x0501, "RSA_PKCS1_SHA384"),
  (0x0503, "ECDSA_SECP384R1_SHA384"), (0x0601, "RSA_PKCS1_SHA512"),
  (0x0603, "ECDSA_SECP521R1_SHA512"), (0x0804, "RSA_PSS_RSAE_SHA256"),
  (0x0805, "RSA_PSS_RSAE_SHA384"), (0x0806, "RSA_PSS_RSAE_SHA512"), (0x0807, "ED25519"),
  (0x0808, "ED448"), (0x0809, "RSA_PSS_PSS_SHA256"), (0x080a, "RSA_PSS_PSS_SHA384"),
  (0x080b, "RSA_PSS_PSS_SHA512"), (0x081a, "ECDSA_BRAINPOOLP256R1TLS13_SHA256"),
  (0x081b, "ECDSA_BRAINPOOLP384R1TLS13_SHA384"), (0x081c, "ECDSA_BRAINPOOLP512R1TLS13_SHA512"),
  (0x0708, "SM2SIG_SM3"), (0x0709, "GOSTR34102012_256A"), (0x070a, "GOSTR34102012_256B"),
  (0x070b, "GOSTR34102012_256C"), (0x070c, "GOSTR34102012_256D"), (0x070d, "GOSTR34102012_512A"),
  (0x070e, "GOSTR34102012_512B"), (0x070f, "GOSTR34102012_512C"),
  (0x0420, "RSA_PKCS1_SHA256_LEGACY"), (0x0520, "RSA_PKCS1_SHA384_LEGACY"),
  (0x0620, "RSA_PKCS1_SHA512_LEGACY")]

/-- The formats of a curve point. -/
def ecPointFormatNames : Dict Nat String := [
  (0, "UNCOMPRESSED"), (1, "ANSIX962_COMPRESSED_PRIME"), (2, "ANSIX962_COMPRESSED_CHAR2")]

/-- The modes of a key exchange with a shared key. -/
def pskKeyExchangeModeNames : Dict Nat String := [
  (0, "PSK_KE"), (1, "PSK_DHE_KE")]

/-- The ways to compress a certificate. -/
def certificateCompressionAlgorithmNames : Dict Nat String := [
  (1, "ZLIB"), (2, "BROTLI"), (3, "ZSTD")]

/-- The kinds of server name. -/
def serverNameTypeNames : Dict Nat String := [
  (0, "HOST_NAME")]

namespace ExtensionType

def serverName : Nat := 0
def supportedGroups : Nat := 10
def ecPointFormats : Nat := 11
def signatureAlgorithms : Nat := 13
def applicationLayerProtocolNegotiation : Nat := 16
def padding : Nat := 21
def encryptThenMac : Nat := 22
def extendedMasterSecret : Nat := 23
def compressCertificate : Nat := 27
def recordSizeLimit : Nat := 28
def supportedVersions : Nat := 43
def pskKeyExchangeModes : Nat := 45
def signatureAlgorithmsCert : Nat := 50
def keyShare : Nat := 51

end ExtensionType

end SolveTls
